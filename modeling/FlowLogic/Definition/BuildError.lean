import FlowLogic.Json.Basic

/-!
What can be wrong with the document of a definition, and where.
-/

namespace FlowLogic

inductive Step where
  | key (name : String)
  | index (position : Nat)
  deriving DecidableEq

abbrev Path := List Step

namespace Path

def render (path : Path) : String :=
  path.foldl (fun text step =>
    match step with
    | .key name => if text.isEmpty then name else text ++ "." ++ name
    | .index position => text ++ "[" ++ toString position ++ "]") ""

def key (path : Path) (name : String) : Path := path ++ [.key name]

def index (path : Path) (position : Nat) : Path := path ++ [.index position]

end Path

inductive BuildFault where
  | unknownValueType (tag : String)
  | valueTypeNotText (actual : Json.Kind)
  | unknownDataType (tag : String)
  | dataTypeNotText (actual : Json.Kind)
  | tokensNotArray (actual : Json.Kind)
  | tokenNotObject (actual : Json.Kind)
  | tokenTypeMissing
  | unknownTokenType (tag : String)
  | tokenValueNotScalar (actual : Json.Kind)
  | argumentsNotArray
  | unknownConnective (tag : String)
  | connectiveNotText
  | childrenNotArray
  | childNotObject
  | itemTypeMissing
  | unknownItemType (tag : String)
  | unknownComparison (tag : String)
  | comparisonMissing
  | operandMissing (key : String)
  | rightOperandMissing (operator : String)
  | noTokens
  | noEffectiveChildren
  deriving DecidableEq

def BuildFault.message : BuildFault → String
  | .unknownValueType tag => "unknown value type: '" ++ tag ++ "'"
  | .valueTypeNotText actual => "value type must be a string, got " ++ actual.name
  | .unknownDataType tag => "unknown data type: '" ++ tag ++ "'"
  | .dataTypeNotText actual => "data type must be a string, got " ++ actual.name
  | .tokensNotArray actual => "expected an array of tokens, got " ++ actual.name
  | .tokenNotObject actual => "expected token object, got " ++ actual.name
  | .tokenTypeMissing => "token is missing 'type'"
  | .unknownTokenType tag => "unknown token type: '" ++ tag ++ "'"
  | .tokenValueNotScalar actual => "token value must be a scalar, got " ++ actual.name
  | .argumentsNotArray => "method args must be an array"
  | .unknownConnective tag => "unknown logical operator '" ++ tag ++ "', expected AND or OR"
  | .connectiveNotText => "ops must be a string"
  | .childrenNotArray => "children must be an array"
  | .childNotObject => "condition child must be an object"
  | .itemTypeMissing => "missing item type, expected compare or operation"
  | .unknownItemType tag => "unknown item type '" ++ tag ++ "', expected compare or operation"
  | .unknownComparison tag => "unknown comparison '" ++ tag ++ "'"
  | .comparisonMissing => "missing comparison operator"
  | .operandMissing key => key ++ " is required"
  | .rightOperandMissing operator => "'" ++ operator ++ "' requires a right operand"
  | .noTokens => "value has no tokens"
  | .noEffectiveChildren => "condition has no effective children"

structure BuildError where
  fault : BuildFault
  path : Path
  deriving DecidableEq

def BuildError.message (e : BuildError) : String :=
  let place := e.path.render
  if place.isEmpty then "build error: " ++ e.fault.message
  else "build error at " ++ place ++ ": " ++ e.fault.message

end FlowLogic
