import FlowLogic.Json.Scalar
import FlowLogic.Text.Search
import FlowLogic.Text.Suggestion

/-!
Transforms: the named steps that change a value before it is bound.  Each declares the kinds of
values it takes.
-/

namespace FlowLogic

inductive Transform where
  | toNumber
  | toString
  | toArray
  | toBoolean
  | toJson
  | count
  | empty
  | join (separator : String)
  deriving DecidableEq

inductive ChainFault where
  | strayClose
  | unclosedString
  | unclosedCall
  | emptyCall
  | emptyChain
  | notCall (segment : String)
  | textAfterString
  | argumentRefused (name argument : String)
  deriving DecidableEq

inductive TransformError where
  | badChain (chain : String) (fault : ChainFault)
  | unknown (name : String) (suggestion : Option String)
  | wrongKind (step : Transform) (actual : Json.Kind)
  | notNumeric (step : Transform) (text : String)
  deriving DecidableEq

namespace Transform

def name : Transform → String
  | .toNumber => "toNumber"
  | .toString => "toString"
  | .toArray => "toArray"
  | .toBoolean => "toBoolean"
  | .toJson => "toJson"
  | .count => "count"
  | .empty => "empty"
  | .join _ => "join"

/-- The transforms without an argument, with `join` at the end under its default separator. -/
def all : List Transform :=
  [.toNumber, .toString, .toArray, .toBoolean, .toJson, .count, .empty, .join ","]

/-- How messages show a step; a separator stands as it is. -/
def display : Transform → String
  | .join separator => "join('" ++ separator ++ "')"
  | step => step.name ++ "()"

/-- The kinds of values that a step takes, if it does not take all. -/
def sources? : Transform → Option (List Json.Kind)
  | .toNumber => some [.number, .string, .boolean]
  | .toString | .toArray => none
  | .toBoolean => some [.boolean, .number]
  | .toJson | .empty => some [.array, .object]
  | .count | .join _ => some [.array]

def accepts (step : Transform) (kind : Json.Kind) : Bool :=
  match step.sources? with
  | none => true
  | some kinds => kinds.contains kind

def numberText (value : Json) : Except TransformError Json :=
  match value with
  | .num _ => .ok (.str value.asText)
  | .bool true => .ok (.str "1")
  | .bool false => .ok (.str "0")
  | other =>
    match Json.readNumber? (Text.trimText other.asText) with
    | some number => .ok (.str number.asText)
    | none => .error (.notNumeric .toNumber other.asText)

def joinItems (separator : String) : Json → Json
  | .arr items => .str (Text.joinTexts separator (items.map Json.asText))
  | _ => .str ""

def applyAccepted (step : Transform) (value : Json) : Except TransformError Json :=
  match step with
  | .toNumber => numberText value
  | .toString => .ok (.str value.asText)
  | .toArray =>
    match value with
    | .null => .ok (.arr [])
    | .arr items => .ok (.arr items)
    | other => .ok (.arr [other])
  | .toBoolean => .ok (.bool value.isTrue)
  | .toJson => .ok (.str value.asText)
  | .count =>
    match value with
    | .arr items => .ok (.ofNat items.length)
    | _ => .ok (.ofNat 0)
  | .empty => .ok (.bool !value.isTrue)
  | .join separator => .ok (joinItems separator value)

def apply (step : Transform) (value : Json) : Except TransformError Json :=
  if step.accepts value.kind then step.applyAccepted value
  else .error (.wrongKind step value.kind)

end Transform

namespace ChainFault

def message : ChainFault → String
  | .strayClose => "unbalanced ')'"
  | .unclosedString => "unterminated string"
  | .unclosedCall => "unbalanced '('"
  | .emptyCall => "empty call"
  | .emptyChain => "empty chain"
  | .notCall segment => "expected call, got '" ++ segment ++ "'"
  | .textAfterString => "argument has trailing text after the string"
  | .argumentRefused name argument => name ++ "() takes no argument, got '" ++ argument ++ "'"

end ChainFault

namespace TransformError

def message : TransformError → String
  | .badChain chain fault => "trans error: invalid chain '" ++ chain ++ "': " ++ fault.message
  | .unknown name suggestion =>
    "trans error: unknown transform '" ++ name ++ "'" ++ Text.hint suggestion
  | .wrongKind step actual =>
    "trans error: " ++ step.display ++ " expects "
      ++ Text.joinTexts "|" ((step.sources?.getD []).map Json.Kind.name)
      ++ ", got " ++ actual.name
  | .notNumeric step text =>
    "trans error: " ++ step.display ++ " cannot convert '" ++ text ++ "' to a number"

end TransformError

end FlowLogic
