import FlowLogic.Dict
import FlowLogic.Number.Binary64

/-!
JSON values.  A number is an integer of the signed or the unsigned 64-bit range, or a finite binary
floating point number; the two kinds stay apart, as `1` and `1.0` do in a document.
-/

namespace FlowLogic

inductive JsonNumber where
  | int (value : Int) (range : -9223372036854775808 ≤ value ∧ value < 18446744073709551616)
  | float (value : Finite64)
  deriving DecidableEq

inductive Json where
  | null
  | bool (value : Bool)
  | num (value : JsonNumber)
  | str (value : String)
  | arr (items : List Json)
  | obj (fields : List (String × Json))

namespace JsonNumber

def toBinary64 : JsonNumber → Binary64
  | int value _ => .ofInt value
  | float value => .finite value

end JsonNumber

namespace Json

instance : Inhabited Json := ⟨null⟩

def ofInt? (value : Int) : Option Json :=
  if h : -9223372036854775808 ≤ value ∧ value < 18446744073709551616 then some (num (.int value h))
  else none

/-- A count of things held in memory; past the range it stays at the greatest number. -/
def ofNat (value : Nat) : Json :=
  (ofInt? value).getD (num (.int 18446744073709551615 (by decide)))

/-- A float as it stands; the infinities and `nan` have no JSON form. -/
def ofBinary64 : Binary64 → Json
  | .finite value => num (.float value)
  | _ => null

inductive Kind where
  | null
  | boolean
  | number
  | string
  | array
  | object
  deriving DecidableEq

def Kind.name : Kind → String
  | .null => "null"
  | .boolean => "boolean"
  | .number => "number"
  | .string => "string"
  | .array => "array"
  | .object => "object"

def kind : Json → Kind
  | null => .null
  | bool _ => .boolean
  | num _ => .number
  | str _ => .string
  | arr _ => .array
  | obj _ => .object

theorem kind_ofNat (value : Nat) : (ofNat value).kind = .number := by
  unfold ofNat ofInt?
  split <;> rfl

def value? : Json → String → Option Json
  | obj fields, key => Dict.value? fields key
  | _, _ => none

def text? : Json → Option String
  | str value => some value
  | _ => none

end Json

/-- The named values that a definition is evaluated against. -/
abbrev Bindings := Dict Json

end FlowLogic
