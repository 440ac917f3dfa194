/-!
Searching texts.  Occurrences are taken from the left and do not overlap.
-/

namespace FlowLogic.Text

def occursIn (pattern : List Char) : List Char → Bool
  | [] => pattern.isEmpty
  | c :: rest => pattern.isPrefixOf (c :: rest) || occursIn pattern rest

def consFirst (c : Char) : List (List Char) → List (List Char)
  | [] => [[c]]
  | piece :: rest => (c :: piece) :: rest

/-- The pieces between the occurrences of a separator, which is not empty; `skip` characters still
belong to the last occurrence. -/
def splitFrom (separator : List Char) : (skip : Nat) → List Char → List (List Char)
  | _, [] => [[]]
  | skip + 1, _ :: rest => splitFrom separator skip rest
  | 0, c :: rest =>
    if separator.isPrefixOf (c :: rest) then
      [] :: splitFrom separator (separator.length - 1) rest
    else consFirst c (splitFrom separator 0 rest)

def split (separator text : List Char) : List (List Char) := splitFrom separator 0 text

def replaceFrom (pattern replacement : List Char) : (skip : Nat) → List Char → List Char
  | _, [] => []
  | skip + 1, _ :: rest => replaceFrom pattern replacement skip rest
  | 0, c :: rest =>
    if pattern.isPrefixOf (c :: rest) then
      replacement ++ replaceFrom pattern replacement (pattern.length - 1) rest
    else c :: replaceFrom pattern replacement 0 rest

def replace (pattern replacement text : List Char) : List Char :=
  replaceFrom pattern replacement 0 text

def join (separator : List Char) : List (List Char) → List Char
  | [] => []
  | [piece] => piece
  | piece :: rest => piece ++ separator ++ join separator rest

def joinTexts (separator : String) (texts : List String) : String :=
  String.ofList (join separator.toList (texts.map String.toList))

def splitText (separator text : String) : List String :=
  (split separator.toList text.toList).map String.ofList

def replaceText (pattern replacement text : String) : String :=
  String.ofList (replace pattern.toList replacement.toList text.toList)

end FlowLogic.Text
