import FlowLogic.Json.Printer

/-!
JSON text on many lines: every item and field on a line of its own, two blanks deeper than what it
belongs to.
-/

namespace FlowLogic

namespace Json

def lineStart (depth : Nat) : List Char := '\n' :: List.replicate (2 * depth) ' '

def bracketed (left right : Char) (depth : Nat) : List (List Char) → List Char
  | [] => [left, right]
  | lines =>
    left :: commaSeparated (lines.map (lineStart (depth + 1) ++ ·)) ++ lineStart depth ++ [right]

mutual

def prettyChars (depth : Nat) : Json → List Char
  | arr items => bracketed '[' ']' depth (prettyItems (depth + 1) items)
  | obj fields => bracketed '{' '}' depth (prettyFields (depth + 1) fields)
  | other => other.chars

def prettyItems (depth : Nat) : List Json → List (List Char)
  | [] => []
  | item :: rest => item.prettyChars depth :: prettyItems depth rest

def prettyFields (depth : Nat) : List (String × Json) → List (List Char)
  | [] => []
  | (key, value) :: rest =>
    (quotedChars key ++ ':' :: ' ' :: value.prettyChars depth) :: prettyFields depth rest

end

def pretty (value : Json) : String := String.ofList (value.prettyChars 0)

end Json

end FlowLogic
