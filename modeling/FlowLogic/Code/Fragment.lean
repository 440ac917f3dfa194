import FlowLogic.Code.Node

/-!
Fragments of source text: literals and lookups with points between them.  Bare literals extend to
the next white space or quote, so that numerals keep their points.
-/

namespace FlowLogic

namespace Node.Fragment

inductive Term where
  | literal (value : Json)
  | lookup (path : List String)

def Term.node : Term → Node
  | .literal value => .literal value
  | .lookup path => .lookup path

def readQuoted? (q : Char) : List Char → Option (List Char × List Char)
  | [] => none
  | '\\' :: c :: rest => (readQuoted? q rest).map fun (text, rest) => (c :: text, rest)
  | c :: rest =>
    if c = '\\' then none
    else if c = q then some ([], rest)
    else (readQuoted? q rest).map fun (text, rest) => (c :: text, rest)

def isQuote (c : Char) : Bool := c == '\'' || c == '"'

def readString? : List Char → Option (String × List Char)
  | [] => none
  | c :: rest =>
    if isQuote c then (readQuoted? c rest).map fun (text, rest) => (String.ofList text, rest)
    else none

def readSegments? : (fuel : Nat) → List Char → Option (List String × List Char)
  | 0, cs => some ([], cs)
  | fuel + 1, '[' :: rest => do
    let (segment, rest) ← readString? (Text.trimStart rest)
    match Text.trimStart rest with
    | ']' :: rest =>
      let (segments, rest) ← readSegments? fuel rest
      some (segment :: segments, rest)
    | _ => none
  | _ + 1, cs => some ([], cs)

def isWordPart (c : Char) : Bool := !Text.isBlank c && !isQuote c

def wordValue? (word : List Char) : Option Json :=
  match String.ofList word with
  | "true" => some (.bool true)
  | "false" => some (.bool false)
  | "null" => some .null
  | text => Json.readNumber? text

def readTerm? (cs : List Char) : Option (Term × List Char) :=
  match Text.trimStart cs with
  | [] => none
  | c :: rest =>
    if isQuote c then
      (readQuoted? c rest).map fun (text, rest) => (.literal (.str (String.ofList text)), rest)
    else if "data[".toList.isPrefixOf (c :: rest) then
      (readSegments? rest.length (rest.drop 3)).map fun (path, rest) => (.lookup path, rest)
    else
      (wordValue? ((c :: rest).takeWhile isWordPart)).map fun value =>
        (.literal value, (c :: rest).dropWhile isWordPart)

def readTerms? : (fuel : Nat) → List Char → Option (List Term)
  | 0, _ => none
  | fuel + 1, cs => do
    let (term, rest) ← readTerm? cs
    match Text.trimStart rest with
    | [] => some [term]
    | '.' :: rest => (readTerms? fuel rest).map (term :: ·)
    | _ => none

def read? (source : String) : Option (List Term) :=
  let text := Text.trim source.toList
  readTerms? text.length text

end Node.Fragment

open Node.Fragment in
/-- The program of a fragment: its only term, or all terms appended to one text. -/
def Node.readFragment? (source : String) : Option Node :=
  match read? source with
  | some [.literal value] => some (.raw source value)
  | some [term] => some term.node
  | some terms => some (.concat (terms.map Term.node))
  | none => none

end FlowLogic
