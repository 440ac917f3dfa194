import FlowLogic.Text.Blank
import FlowLogic.Text.Case

/-!
The closed vocabularies of definitions and the tags that documents spell them with.
-/

namespace FlowLogic

/-- What the result of a value is converted to; `expression` leaves it as it is. -/
inductive DataType where
  | string
  | number
  | array
  | object
  | boolean
  | null
  | expression
  deriving DecidableEq

namespace DataType

def name : DataType → String
  | .string => "string"
  | .number => "number"
  | .array => "array"
  | .object => "object"
  | .boolean => "boolean"
  | .null => "null"
  | .expression => "expression"

def all : List DataType := [.string, .number, .array, .object, .boolean, .null, .expression]

def ofTag? (tag : String) : Option DataType :=
  match Text.asciiLower (Text.trimText tag) with
  | "string" => some .string
  | "number" | "integer" | "int" | "float" => some .number
  | "array" => some .array
  | "object" => some .object
  | "boolean" | "bool" => some .boolean
  | "null" => some .null
  | "expression" => some .expression
  | _ => none

end DataType

inductive ValueKind where
  | const
  | expression
  deriving DecidableEq

namespace ValueKind

def name : ValueKind → String
  | .const => "const"
  | .expression => "expression"

def ofTag? : String → Option ValueKind
  | "const" => some .const
  | "expression" => some .expression
  | _ => none

def tokensKey : ValueKind → String
  | .const => "const_value"
  | .expression => "expression_value"

end ValueKind

/-- The tokens that carry their result with them. -/
inductive DisplayKind where
  | member
  | datetime
  | multiple
  | select
  | checkbox
  | departmentNames
  | names
  deriving DecidableEq

namespace DisplayKind

def name : DisplayKind → String
  | .member => "member"
  | .datetime => "datetime"
  | .multiple => "multiple"
  | .select => "select"
  | .checkbox => "checkbox"
  | .departmentNames => "department_names"
  | .names => "names"

def listsMembers : DisplayKind → Bool
  | .member | .names => true
  | _ => false

end DisplayKind

inductive TokenKind where
  | field
  | input
  | call
  | display (kind : DisplayKind)
  deriving DecidableEq

namespace TokenKind

def name : TokenKind → String
  | .field => "fields"
  | .input => "input"
  | .call => "methods"
  | .display kind => kind.name

def payloadKey (kind : TokenKind) : String := kind.name ++ "_value"

def isDisplay : TokenKind → Bool
  | .display _ => true
  | _ => false

def exactTag? : String → Option TokenKind
  | "fields" | "field" => some .field
  | "input" => some .input
  | "methods" | "method" => some .call
  | "member" => some (.display .member)
  | "datetime" => some (.display .datetime)
  | "multiple" => some (.display .multiple)
  | "select" => some (.display .select)
  | "checkbox" => some (.display .checkbox)
  | "department_names" => some (.display .departmentNames)
  | "names" => some (.display .names)
  | _ => none

def stem? (tag : String) : Option String :=
  if tag.toList.contains '_' then some (String.ofList (tag.toList.takeWhile (· != '_'))) else none

/-- Reads a tag as a whole, or else its stem. -/
def ofTag? (tag : String) : Option TokenKind :=
  (exactTag? tag).or ((stem? tag).bind exactTag?)

end TokenKind

end FlowLogic
