import FlowLogic.Text.Case

/-!
Suggestions for misspelt names: the known name that is the fewest edits away, if these are few.
-/

namespace FlowLogic.Text

/-- The next row of the table of edit distances; `row` holds the distances of the prefixes of
`target` to the text so far. -/
def nextRow (c : Char) (target : List Char) (row : List Nat) : List Nat :=
  match row with
  | [] => []
  | first :: rest => go target first rest (first + 1)
where
  go : List Char → Nat → List Nat → Nat → List Nat
    | t :: ts, diagonal, above :: rest, left =>
      let cell := min (min (above + 1) (left + 1)) (if c = t then diagonal else diagonal + 1)
      left :: go ts above rest cell
    | _, _, _, left => [left]

def editDistance (source target : List Char) : Nat :=
  let last := source.foldl (fun row c => nextRow c target row) (List.range (target.length + 1))
  last.getLast?.getD 0

def suggestionLimit : Nat := 2

/-- The nearest candidate in any letter case; of several the first in the order of names. -/
def closest? (name : String) (candidates : List String) : Option String :=
  let wanted := lower name.toList
  let near := candidates.filterMap fun candidate =>
    let distance := editDistance wanted (lower candidate.toList)
    if distance ≤ suggestionLimit then some (distance, candidate) else none
  let better (a b : Nat × String) : Bool := a.1 < b.1 || (a.1 == b.1 && decide (a.2 < b.2))
  (near.foldl (fun (best : Option (Nat × String)) entry =>
    match best with
    | none => some entry
    | some chosen => if better entry chosen then some entry else some chosen) none).map Prod.snd

def hint : Option String → String
  | some name => " (did you mean '" ++ name ++ "'?)"
  | none => ""

end FlowLogic.Text
