import FlowLogic.Calendar.Format
import FlowLogic.Definition.Value

/-!
The results that display tokens carry: dates, options, check marks and names.
-/

namespace FlowLogic

structure RefusedFormat where
  format : String
  deriving DecidableEq

namespace Moment

def formatted (m : Moment) (format : String) : Except RefusedFormat Json :=
  match m.format? format with
  | some text => .ok (.str text)
  | none => .error ⟨format⟩

/-- From here on a count is taken for milliseconds. -/
def millisThreshold : Nat := 100000000000

def ofEpoch? (count : Int) : Option Moment :=
  if millisThreshold ≤ count.natAbs then ofMillis? count else ofSeconds? count

def ofText? (text : String) : Option Moment :=
  let cs := Text.trim text.toList
  match readInt64? cs with
  | some count => ofEpoch? count
  | none => read? cs

end Moment

namespace DisplayKind

mutual

/-- The date of a payload; an object can bring its own format.  A text that states no moment is
shown as it is. -/
def dateValue (format : String) : Json → Except RefusedFormat Json
  | .obj fields =>
    dateUnderValue (((Dict.value? fields "format").bind Json.text?).getD format) fields
  | .num (.int count _) =>
    if count < 9223372036854775808 then
      match Moment.ofEpoch? count with
      | some moment => moment.formatted format
      | none => .ok .null
    else .ok .null
  | .str text =>
    match Moment.ofText? text with
    | some moment => moment.formatted format
    | none => .ok (.str text)
  | _ => .ok .null

def dateUnderValue (format : String) : List (String × Json) → Except RefusedFormat Json
  | [] => .ok .null
  | (k, v) :: rest => if k = "value" then dateValue format v else dateUnderValue format rest

end

def optionValue (option : Json) : Json := (option.value? "value").getD option

def isChecked : Json → Bool
  | .str text =>
    if Text.sameIgnoringCase text "false" then false
    else if Text.sameIgnoringCase text "true" then true
    else (Json.str text).isTrue
  | other => other.isTrue

def entries : Json → List Json
  | .null => []
  | .arr items => items
  | other => [other]

def departmentName (entry : Json) : Json :=
  match entry.value? "name" with
  | some name => .str name.asText
  | none => entry

def fixedValue (kind : DisplayKind) (payload : Json) : Except RefusedFormat Json :=
  match kind with
  | .datetime => dateValue Moment.usualFormat payload
  | .checkbox => .ok (.bool (isChecked payload))
  | .select => .ok (optionValue payload)
  | .multiple => .ok (.arr ((entries payload).map optionValue))
  | .departmentNames => .ok (.arr ((entries payload).map departmentName))
  | .member | .names => .ok payload

end DisplayKind

end FlowLogic
