import FlowLogic.Json.Scalar
import FlowLogic.Text.Case
import FlowLogic.Text.Search

/-!
Programs: trees of literals, lookups, calls and operators, with the source text that they print as.
-/

namespace FlowLogic

inductive Connective where
  | and
  | or
  deriving DecidableEq

namespace Connective

def name : Connective → String
  | .and => "AND"
  | .or => "OR"

def code : Connective → String
  | .and => "&&"
  | .or => "||"

def ofTag? (tag : String) : Option Connective :=
  match Text.asciiLower (Text.trimText tag) with
  | "and" | "&&" | "all" => some .and
  | "or" | "||" | "any" => some .or
  | _ => none

def unit : Connective → Bool
  | .and => true
  | .or => false

end Connective

inductive Comparator where
  | looseEq
  | looseNe
  | strictEq
  | strictNe
  | gt
  | lt
  | ge
  | le
  deriving DecidableEq

namespace Comparator

def code : Comparator → String
  | .looseEq => "=="
  | .looseNe => "!="
  | .strictEq => "==="
  | .strictNe => "!=="
  | .gt => ">"
  | .lt => "<"
  | .ge => ">="
  | .le => "<="

def all : List Comparator := [.looseEq, .looseNe, .strictEq, .strictNe, .gt, .lt, .ge, .le]

def ofCode? (code : String) : Option Comparator := all.find? (·.code == code)

end Comparator

inductive Node where
  | literal (value : Json)
  /-- A literal that keeps the text it was written as. -/
  | raw (code : String) (value : Json)
  | lookup (path : List String)
  | call (name : String) (arguments : List Node)
  | concat (parts : List Node)
  | not (inner : Node)
  | isSet (inner : Node)
  /-- The value, or the empty text where it is unset. -/
  | coalesce (inner : Node)
  | contains (haystack needle : Node)
  | compare (comparator : Comparator) (left right : Node)
  | logical (connective : Connective) (operands : List Node)
  | paren (inner : Node)

instance : Inhabited Node := ⟨.literal .null⟩

namespace Node

mutual

/-- Every function called in the tree with its number of arguments, the caller before its
arguments. -/
def calls : Node → List (String × Nat)
  | literal _ | raw _ _ | lookup _ => []
  | call name arguments => (name, arguments.length) :: callsAll arguments
  | concat parts => callsAll parts
  | not inner | isSet inner | coalesce inner | paren inner => inner.calls
  | contains haystack needle => haystack.calls ++ needle.calls
  | compare _ left right => left.calls ++ right.calls
  | logical _ operands => callsAll operands

def callsAll : List Node → List (String × Nat)
  | [] => []
  | node :: rest => node.calls ++ callsAll rest

end

def escapeQuoted (c : Char) : List Char :=
  if c = '\\' ∨ c = '\'' then ['\\', c] else [c]

def quotedChars (text : String) : List Char :=
  '\'' :: text.toList.flatMap escapeQuoted ++ ['\'']

def quote (text : String) : String := String.ofList (quotedChars text)

def literalChars : Json → List Char
  | .null => "null".toList
  | .str text => quotedChars text
  | value => value.asChars

def bracketed (segment : String) : List Char := '[' :: quotedChars segment ++ [']']

def parenthesised (inner : List Char) : List Char := '(' :: inner ++ [')']

mutual

def chars : Node → List Char
  | literal value => literalChars value
  | raw code _ => code.toList
  | lookup path => "data".toList ++ path.flatMap bracketed
  | call name arguments =>
    name.toList ++ parenthesised (Text.join ", ".toList ((charsAll arguments).map parenthesised))
  | concat parts => Text.join " . ".toList (charsAll parts)
  | not inner => '!' :: inner.chars
  | isSet inner => "isset".toList ++ parenthesised inner.chars
  | coalesce inner => inner.chars ++ " ?? ''".toList
  | contains haystack needle =>
    "contains".toList
      ++ parenthesised (parenthesised haystack.chars ++ ", ".toList ++ parenthesised needle.chars)
  | compare comparator left right =>
    parenthesised left.chars ++ ' ' :: comparator.code.toList ++ ' ' :: parenthesised right.chars
  | logical connective [] => if connective.unit then "true".toList else "false".toList
  | logical connective operands =>
    parenthesised
      (Text.join (' ' :: connective.code.toList ++ [' ']) (charsAll operands))
  | paren inner => parenthesised inner.chars

def charsAll : List Node → List (List Char)
  | [] => []
  | node :: rest => node.chars :: charsAll rest

end

def code (node : Node) : String := String.ofList node.chars

end Node

end FlowLogic
