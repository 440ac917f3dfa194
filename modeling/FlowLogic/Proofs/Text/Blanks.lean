import FlowLogic.Proofs.Text.Pieces
import FlowLogic.Text.Blank

/-!
White space at the ends of texts.  What is trimmed away is white space, and a text that neither starts
nor ends with any is kept as it is.
-/

namespace FlowLogic.Text

def AllBlank (cs : List Char) : Prop := ∀ c ∈ cs, isBlank c = true

theorem AllBlank.append {cs ds : List Char} (blank : AllBlank cs) (blankOther : AllBlank ds) :
    AllBlank (cs ++ ds) :=
  fun c member => (List.mem_append.mp member).elim (blank c) (blankOther c)

theorem trimStart_eq_nil {cs : List Char} : trimStart cs = [] ↔ AllBlank cs := by
  simp [trimStart, AllBlank]

theorem exists_trimStart (cs : List Char) :
    ∃ lead, AllBlank lead ∧ cs = lead ++ trimStart cs ∧ StopsAt isBlank (trimStart cs) := by
  refine ⟨cs.takeWhile isBlank, fun c member => List.mem_takeWhile_imp member,
    List.takeWhile_append_dropWhile.symm, ?_⟩
  intro c first
  have stops := List.head?_dropWhile_not isBlank cs
  rw [trimStart, Option.mem_def] at first
  simpa [first] using stops

theorem exists_trim (cs : List Char) :
    ∃ lead trail, AllBlank lead ∧ AllBlank trail ∧ cs = lead ++ (trim cs ++ trail) := by
  obtain ⟨lead, blank, text, _⟩ := exists_trimStart cs
  obtain ⟨trail, blankTrail, reversed, _⟩ := exists_trimStart (trimStart cs).reverse
  refine ⟨lead, trail.reverse, blank, fun c member => blankTrail c (List.mem_reverse.mp member), ?_⟩
  have ends : trimStart cs = trim cs ++ trail.reverse := by
    simpa [trim, trimEnd, trimStart] using congrArg List.reverse reversed
  rw [← ends]
  exact text

theorem trimStart_of_stopsAt {cs : List Char} (visible : StopsAt isBlank cs) : trimStart cs = cs := by
  have none : ∀ c ∈ ([] : List Char), isBlank c = true := by simp
  simpa [trimStart] using dropWhile_run none visible

/-- The text is not empty and has no white space at its ends. -/
structure Framed (cs : List Char) : Prop where
  filled : cs ≠ []
  starts : StopsAt isBlank cs
  ends : StopsAt isBlank cs.reverse

theorem Framed.trim_eq {cs : List Char} (framed : Framed cs) : trim cs = cs := by
  have ends : cs.reverse.dropWhile isBlank = cs.reverse := trimStart_of_stopsAt framed.ends
  rw [trim, trimStart_of_stopsAt framed.starts, trimEnd, ends, List.reverse_reverse]

theorem stopsAt_append {inside : Char → Bool} {cs : List Char} (filled : cs ≠ [])
    (stops : StopsAt inside cs) (rest : List Char) : StopsAt inside (cs ++ rest) := by
  cases cs with
  | nil => exact absurd rfl filled
  | cons c cs => simpa using stops

theorem Framed.append {cs ds : List Char} (framed : Framed cs) (framedOther : Framed ds)
    (middle : List Char) : Framed (cs ++ (middle ++ ds)) where
  filled := List.append_ne_nil_of_left_ne_nil framed.filled _
  starts := stopsAt_append framed.filled framed.starts _
  ends := by
    rw [List.reverse_append, List.reverse_append, List.append_assoc]
    exact stopsAt_append (by simpa using framedOther.filled) framedOther.ends _

theorem Framed.join {separator : List Char} {pieces : List (List Char)} (several : pieces ≠ [])
    (framed : ∀ piece ∈ pieces, Framed piece) : Framed (Text.join separator pieces) := by
  induction pieces with
  | nil => exact absurd rfl several
  | cons piece rest ih =>
      rw [List.forall_mem_cons] at framed
      cases rest with
      | nil => exact framed.1
      | cons next rest =>
          have later := ih (List.cons_ne_nil _ _) framed.2
          have whole : Text.join separator (piece :: next :: rest) =
              piece ++ (separator ++ Text.join separator (next :: rest)) := by simp [Text.join]
          rw [whole]
          exact framed.1.append later separator

theorem framed_of_visible {cs : List Char} (filled : cs ≠ [])
    (visible : ∀ c ∈ cs, isBlank c = false) : Framed cs where
  filled := filled
  starts := fun c first => visible c (List.mem_of_mem_head? first)
  ends := fun c last => visible c (List.mem_reverse.mp (List.mem_of_mem_head? last))

end FlowLogic.Text
