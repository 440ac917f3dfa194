import FlowLogic.Transform.Basic

/-!
Chains of transforms: calls with a point between them.  An argument is a quoted text, in which a
backslash takes the next character as it is, or else the bare text between the parentheses.
-/

namespace FlowLogic

abbrev Chain := List Transform

namespace Chain

/-- Where a reader of a chain stands: how many parentheses are open, in which quotes, and whether
the last character took the next one as it is. -/
structure Cursor where
  depth : Nat
  quote : Option Char
  escaped : Bool

def Cursor.start : Cursor := ⟨0, none, false⟩

/-- Cuts a chain at the points that stand outside quotes and parentheses. -/
def cutFrom (cursor : Cursor) : List Char → Except ChainFault (List (List Char))
  | [] =>
    if cursor.quote.isSome then .error .unclosedString
    else if cursor.depth ≠ 0 then .error .unclosedCall
    else .ok [[]]
  | c :: rest =>
    match cursor.quote with
    | some q =>
      let next : Cursor :=
        if cursor.escaped then { cursor with escaped := false }
        else if c = '\\' then { cursor with escaped := true }
        else if c = q then { cursor with quote := none }
        else cursor
      (cutFrom next rest).map (Text.consFirst c)
    | none =>
      if c = '\'' ∨ c = '"' then
        (cutFrom { cursor with quote := some c } rest).map (Text.consFirst c)
      else if c = '(' then
        (cutFrom { cursor with depth := cursor.depth + 1 } rest).map (Text.consFirst c)
      else if c = ')' then
        if cursor.depth = 0 then .error .strayClose
        else (cutFrom { cursor with depth := cursor.depth - 1 } rest).map (Text.consFirst c)
      else if c = '.' ∧ cursor.depth = 0 then (cutFrom cursor rest).map ([] :: ·)
      else (cutFrom cursor rest).map (Text.consFirst c)

/-- The texts of the calls, without white space around them.  A blank chain has none. -/
def segments (chain : List Char) : Except ChainFault (List (List Char)) := do
  let pieces := (← cutFrom .start chain).map Text.trim
  if pieces = [[]] then .ok []
  else if pieces.any List.isEmpty then .error .emptyCall
  else .ok pieces

def isNameStart (c : Char) : Bool := c.isAlpha || c == '_'

def isNamePart (c : Char) : Bool := isNameStart c || Text.isAsciiDigit c

def readCall? (segment : List Char) : Option (String × List Char) :=
  let name := segment.takeWhile isNamePart
  match name, Text.trimStart (segment.dropWhile isNamePart) with
  | first :: _, '(' :: rest =>
    if isNameStart first && rest.getLast? == some ')' then some (String.ofList name, rest.dropLast)
    else none
  | _, _ => none

def unescape : List Char → List Char
  | '\\' :: c :: rest => c :: unescape rest
  | ['\\'] => []
  | c :: rest => c :: unescape rest
  | [] => []

def readArgument (text : List Char) : Except ChainFault (Option String) :=
  match Text.trim text with
  | [] => .ok none
  | first :: rest =>
    if first = '\'' ∨ first = '"' then
      if rest.getLast? = some first then .ok (some (String.ofList (unescape rest.dropLast)))
      else .error .textAfterString
    else .ok (some (String.ofList (first :: rest)))

/-- The transform of a name; only `join` has an argument, and a comma stands in for it. -/
def namedStep (chain name : String) (argument : Option String) : Except TransformError Transform :=
  match Transform.all.find? (·.name == name) with
  | some (.join separator) => .ok (.join (argument.getD separator))
  | some step =>
    match argument with
    | some text => .error (.badChain chain (.argumentRefused name text))
    | none => .ok step
  | none => .error (.unknown name (Text.closest? name (Transform.all.map Transform.name)))

def readStep (chain : String) (segment : List Char) : Except TransformError Transform :=
  match readCall? segment with
  | none => .error (.badChain chain (.notCall (String.ofList segment)))
  | some (name, text) =>
    match readArgument text with
    | .error fault => .error (.badChain chain fault)
    | .ok argument => namedStep chain name argument

def readSteps (chain : String) : List (List Char) → Except TransformError Chain
  | [] => .ok []
  | segment :: rest => do
    let step ← readStep chain segment
    let steps ← readSteps chain rest
    .ok (step :: steps)

def read (chain : String) : Except TransformError Chain :=
  match segments chain.toList with
  | .error fault => .error (.badChain chain fault)
  | .ok [] => .error (.badChain chain .emptyChain)
  | .ok pieces => readSteps chain pieces

def apply : Chain → Json → Except TransformError Json
  | [], value => .ok value
  | step :: rest, value => do
    let next ← step.apply value
    apply rest next

end Chain

end FlowLogic
