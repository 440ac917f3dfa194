import FlowLogic.Json.Printer
import FlowLogic.Number.Numeral
import FlowLogic.Text.Blank

/-!
JSON values as loosely typed scalars: what counts as numeric, as true and as unset, and the text a
value stands for where a text is wanted.
-/

namespace FlowLogic

/-- Integral floats of smaller magnitude are taken for integers. -/
def collapseLimit : Nat := 9000000000000000

namespace Finite64

def collapsed? (x : Finite64) : Option Int :=
  if x.isWhole && decide (x.units < collapseLimit * Binary64.one) then some x.truncate else none

end Finite64

namespace Json

def isNumeric (text : String) : Bool := (Numeral.read? text.toList).isSome

/-- A number as a JSON value: integral floats become integers, and what is not finite `null`. -/
def ofNumber : Binary64 → Json
  | .finite x =>
    match x.collapsed? with
    | some value => (ofInt? value).getD null
    | none => num (.float x)
  | _ => null

/-- The number that a numeral means; an integer in the signed 64-bit range stays exact. -/
def readNumber? (text : String) : Option Json :=
  (Numeral.read? text.toList).bind fun numeral =>
    match numeral.toInt? with
    | some value =>
      if -9223372036854775808 ≤ value ∧ value < 9223372036854775808 then ofInt? value
      else numeral.toBinary64?.map ofNumber
    | none => numeral.toBinary64?.map ofNumber

/-- The numeric view of numbers and of texts that are numerals between white space. -/
def toNumber? : Json → Option Binary64
  | num value => some value.toBinary64
  | str text => (Numeral.read? (Text.trim text.toList)).bind Numeral.toBinary64?
  | _ => none

def numberChars : JsonNumber → List Char
  | .int value _ => intChars value
  | .float value =>
    match value.collapsed? with
    | some whole => intChars whole
    | none => value.chars

def asChars : Json → List Char
  | null => []
  | bool true => "true".toList
  | bool false => "false".toList
  | num value => numberChars value
  | str value => value.toList
  | value => value.chars

def asText (value : Json) : String := String.ofList value.asChars

def isTrue : Json → Bool
  | null => false
  | bool value => value
  | num (.int value _) => value != 0
  | num (.float value) => !value.isZero
  | str value => value != "" && value != "0"
  | arr items => !items.isEmpty
  | obj fields => !fields.isEmpty

/-- `null` and the empty array count as unset. -/
def isUnset : Json → Bool
  | null => true
  | arr items => items.isEmpty
  | _ => false

def follow? (value : Json) : List String → Option Json
  | [] => some value
  | segment :: rest =>
    match value with
    | obj fields =>
      match Dict.value? fields segment with
      | some next => follow? next rest
      | none => none
    | arr items =>
      match (readIndex? segment.toList).bind (items[·]?) with
      | some next => follow? next rest
      | none => none
    | _ => none

end Json

namespace Bindings

def lookup? (data : Bindings) : List String → Option Json
  | [] => none
  | first :: rest => (data.value? first).bind (Json.follow? · rest)

def isUnset : Option Json → Bool
  | none => true
  | some value => value.isUnset

end Bindings

end FlowLogic
