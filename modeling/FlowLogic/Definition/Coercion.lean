import FlowLogic.Definition.Tag
import FlowLogic.Json.Scalar

/-!
Conversion of results to the type that a value declares.
-/

namespace FlowLogic

structure CoercionError where
  expected : DataType
  actual : Json.Kind
  deriving DecidableEq

def CoercionError.message (e : CoercionError) : String :=
  "coercion error: cannot convert " ++ e.actual.name ++ " to " ++ e.expected.name

namespace DataType

/-- A text that names a truth value in any letter case is that value, any other value what it counts
as. -/
def truth : Json → Bool
  | .str text =>
    if Text.sameIgnoringCase text "true" then true
    else if Text.sameIgnoringCase text "false" then false
    else (Json.str text).isTrue
  | other => other.isTrue

def coerce (expected : DataType) (value : Json) : Except CoercionError Json :=
  match expected, value with
  | .string, .str text => .ok (.str text)
  | .string, .num n => .ok (.str (Json.num n).asText)
  | .number, .num n => .ok (.num n)
  | .number, .str text =>
    match Json.readNumber? (Text.trimText text) with
    | some n => .ok n
    | none => .error ⟨.number, .string⟩
  | .array, .arr items | .object, .arr items => .ok (.arr items)
  | .array, .obj fields | .object, .obj fields => .ok (.obj fields)
  | .boolean, given => .ok (.bool (truth given))
  | .null, _ => .ok .null
  | .expression, given => .ok given
  | wanted, given => .error ⟨wanted, given.kind⟩

end DataType

end FlowLogic
