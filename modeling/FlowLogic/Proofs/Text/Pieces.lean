import FlowLogic.Text.Search
import Mathlib.Data.List.Basic
import Mathlib.Data.List.TakeWhile

/-!
Texts made of pieces.  Where every piece keeps to a set of characters and what follows it starts
outside of the set, the text has only one reading; so joined pieces without the separator are those
that the text is split into.
-/

namespace FlowLogic.Text

/-- The text is at its end or goes on with a character outside of the set. -/
def StopsAt (inside : Char → Bool) (rest : List Char) : Prop :=
  ∀ c ∈ rest.head?, inside c = false

@[simp] theorem stopsAt_nil (inside : Char → Bool) : StopsAt inside [] := by simp [StopsAt]

@[simp] theorem stopsAt_cons {inside : Char → Bool} {c : Char} {rest : List Char} :
    StopsAt inside (c :: rest) ↔ inside c = false := by simp [StopsAt]

section

variable {inside : Char → Bool} {run other rest more : List Char}

theorem takeWhile_run (within : ∀ c ∈ run, inside c = true) (stops : StopsAt inside rest) :
    (run ++ rest).takeWhile inside = run := by
  rw [List.takeWhile_append_of_pos within]
  cases rest with
  | nil => simp
  | cons c rest => simp [stopsAt_cons.mp stops]

theorem dropWhile_run (within : ∀ c ∈ run, inside c = true) (stops : StopsAt inside rest) :
    (run ++ rest).dropWhile inside = rest := by
  rw [List.dropWhile_append_of_pos within]
  cases rest with
  | nil => rfl
  | cons c rest => simp [stopsAt_cons.mp stops]

theorem run_cancel (within : ∀ c ∈ run, inside c = true) (stops : StopsAt inside rest)
    (withinOther : ∀ c ∈ other, inside c = true) (stopsOther : StopsAt inside more)
    (same : run ++ rest = other ++ more) : run = other ∧ rest = more := by
  constructor
  · rw [← takeWhile_run within stops, same, takeWhile_run withinOther stopsOther]
  · rw [← dropWhile_run within stops, same, dropWhile_run withinOther stopsOther]

end

theorem join_cons (separator piece : List Char) (rest : List (List Char)) :
    join separator (piece :: rest) = piece ++ rest.flatMap (separator ++ ·) := by
  induction rest generalizing piece with
  | nil => simp [join]
  | cons next rest ih => simp [join, ih]

theorem join_flatten (separator : List Char) {groups : List (List (List Char))}
    (filled : ∀ group ∈ groups, group ≠ []) :
    join separator (groups.map (join separator)) = join separator groups.flatten := by
  have behind : ∀ groups : List (List (List Char)), (∀ group ∈ groups, group ≠ []) →
      (groups.map (join separator)).flatMap (separator ++ ·) =
        groups.flatten.flatMap (separator ++ ·) := by
    intro groups filled
    rw [List.flatMap_map, List.flatten_eq_flatMap, List.flatMap_assoc]
    refine List.flatMap_congr fun group member => ?_
    cases group with
    | nil => exact absurd rfl (filled [] member)
    | cons piece rest => rw [join_cons, id, List.flatMap_cons, List.append_assoc]
  cases groups with
  | nil => rfl
  | cons group groups =>
      rw [List.forall_mem_cons] at filled
      cases group with
      | nil => exact absurd rfl filled.1
      | cons piece rest =>
          rw [List.map_cons, join_cons, behind groups filled.2, List.flatten_cons, List.cons_append,
            join_cons, join_cons, List.flatMap_append, List.append_assoc]

theorem flatMap_cons_injective {separator : Char} {pieces others : List (List Char)}
    (clean : ∀ piece ∈ pieces, separator ∉ piece)
    (cleanOthers : ∀ piece ∈ others, separator ∉ piece)
    (same : pieces.flatMap (separator :: ·) = others.flatMap (separator :: ·)) :
    pieces = others := by
  have within : ∀ piece : List Char, separator ∉ piece → ∀ c ∈ piece, (c != separator) = true := by
    intro piece absent c member
    have distinct : c ≠ separator := by
      rintro rfl
      exact absent member
    simpa using distinct
  have stops : ∀ rest : List (List Char),
      StopsAt (· != separator) (rest.flatMap (separator :: ·)) := by
    intro rest
    cases rest <;> simp
  induction pieces generalizing others with
  | nil =>
      cases others with
      | nil => rfl
      | cons other others => simp at same
  | cons piece pieces ih =>
      cases others with
      | nil => simp at same
      | cons other others =>
          rw [List.forall_mem_cons] at clean cleanOthers
          simp only [List.flatMap_cons, List.cons_append, List.cons.injEq, true_and] at same
          obtain ⟨rfl, tails⟩ := run_cancel (within piece clean.1) (stops pieces)
            (within other cleanOthers.1) (stops others) same
          rw [ih clean.2 cleanOthers.2 tails]

theorem join_injective {separator : Char} {pieces others : List (List Char)}
    (clean : ∀ piece ∈ pieces, piece ≠ [] ∧ separator ∉ piece)
    (cleanOthers : ∀ piece ∈ others, piece ≠ [] ∧ separator ∉ piece)
    (same : join [separator] pieces = join [separator] others) : pieces = others := by
  cases pieces with
  | nil =>
      cases others with
      | nil => rfl
      | cons other others =>
          rw [List.forall_mem_cons] at cleanOthers
          rw [join_cons] at same
          exact absurd (List.append_eq_nil_iff.mp same.symm).1 cleanOthers.1.1
  | cons piece pieces =>
      cases others with
      | nil =>
          rw [List.forall_mem_cons] at clean
          rw [join_cons] at same
          exact absurd (List.append_eq_nil_iff.mp same).1 clean.1.1
      | cons other others =>
          rw [join_cons, join_cons] at same
          refine flatMap_cons_injective (fun piece member => (clean piece member).2)
            (fun piece member => (cleanOthers piece member).2) ?_
          simpa using congrArg (separator :: ·) same

theorem not_mem_of_mem_split {separator : Char} {text piece : List Char}
    (member : piece ∈ split [separator] text) : separator ∉ piece := by
  unfold split at member
  induction text generalizing piece with
  | nil =>
      obtain rfl : piece = [] := by simpa [splitFrom] using member
      simp
  | cons c rest ih =>
      simp only [splitFrom] at member
      split at member
      next =>
        rcases List.mem_cons.mp member with rfl | inRest
        · simp
        · exact ih inRest
      next apart =>
        have distinct : separator ≠ c := by simpa [List.isPrefixOf] using apart
        cases pieces : splitFrom [separator] 0 rest with
        | nil =>
            obtain rfl : piece = [c] := by simpa [pieces, consFirst] using member
            simpa using distinct
        | cons first others =>
            rw [pieces, consFirst] at member
            rcases List.mem_cons.mp member with rfl | inOthers
            · have absent := ih (pieces ▸ List.mem_cons_self)
              simp [distinct, absent]
            · exact ih (pieces ▸ List.mem_cons_of_mem first inOthers)

end FlowLogic.Text
