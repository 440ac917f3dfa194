import FlowLogic.Text.CaseTables

/-!
Upper and lower case of texts.  A character may map to several, and a capital sigma becomes the
final small sigma at the end of a word.
-/

namespace FlowLogic.Text

def CaseRun.mapped? (run : CaseRun) (n : Nat) : Option Char :=
  if run.first ≤ n ∧ n ≤ run.last ∧ (n - run.first) % run.step = 0 then
    some (Char.ofNat (n + run.shift).toNat)
  else none

/-- What a code point is mapped to by the runs, which are in the order of their first members. -/
def CaseRun.find? (n : Nat) : List CaseRun → Option Char
  | [] => none
  | run :: rest =>
    if n < run.first then none
    else
      match run.mapped? n with
      | some c => some c
      | none => find? n rest

def mapCase (runs : List CaseRun) (sequences : List (Nat × List Nat)) (c : Char) : List Char :=
  match sequences.lookup c.toNat with
  | some codes => codes.map Char.ofNat
  | none => [(CaseRun.find? c.toNat runs).getD c]

def upperChar (c : Char) : List Char :=
  if c.toNat < 0x80 then [c.toUpper] else mapCase CaseTables.upperRuns CaseTables.upperSequences c

def lowerChar (c : Char) : List Char :=
  if c.toNat < 0x80 then [c.toLower] else mapCase CaseTables.lowerRuns CaseTables.lowerSequences c

def startsCased (cs : List Char) : Bool :=
  match cs.dropWhile CaseTables.caseIgnorable.contains with
  | c :: _ => CaseTables.cased.contains c
  | [] => false

/-- Lower case, given the characters before in reverse. -/
def lowerFrom (before : List Char) : List Char → List Char
  | [] => []
  | c :: rest =>
    (if c = 'Σ' then
      [if startsCased before && !startsCased rest then 'ς' else 'σ']
    else lowerChar c) ++ lowerFrom (c :: before) rest

def upper (cs : List Char) : List Char := cs.flatMap upperChar

def lower (cs : List Char) : List Char := lowerFrom [] cs

def lowerText (text : String) : String := String.ofList (lower text.toList)

def asciiLower (text : String) : String := String.ofList (text.toList.map Char.toLower)

def sameIgnoringCase (left right : String) : Bool := asciiLower left == asciiLower right

end FlowLogic.Text
