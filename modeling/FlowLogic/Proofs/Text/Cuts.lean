import FlowLogic.Proofs.Text.Pieces
import Mathlib.Data.List.Infix

/-!
Texts cut at a separator of one or more characters.  Its occurrences are taken from the left and do
not overlap, by splitting and by replacing alike.  So the joined pieces are the text again, and with
other text between them they are the text in which each occurrence is replaced.
-/

namespace FlowLogic.Text

/-- The pieces of a text that is cut at the leftmost occurrence of the separator, and again in what is
left over behind it. -/
inductive CutAt (separator : List Char) : List Char → List (List Char) → Prop
  | last {piece : List Char} (free : ¬ separator <:+: piece) : CutAt separator piece [piece]
  | next {piece rest : List Char} {pieces : List (List Char)}
      (leftmost : ¬ separator <:+: piece ++ separator.dropLast)
      (cut : CutAt separator rest pieces) :
      CutAt separator (piece ++ (separator ++ rest)) (piece :: pieces)

variable {separator replacement text rest : List Char} {pieces : List (List Char)} {c : Char}

theorem CutAt.ne_nil (cut : CutAt separator text pieces) : pieces ≠ [] := by
  cases cut <;> simp

theorem join_cons_of_ne_nil (several : pieces ≠ []) (piece : List Char) :
    join separator (piece :: pieces) = piece ++ (separator ++ join separator pieces) := by
  obtain ⟨next, later, rfl⟩ := List.exists_cons_of_ne_nil several
  rw [join, List.append_assoc]
  simp

theorem CutAt.join_eq (cut : CutAt separator text pieces) : join separator pieces = text := by
  induction cut with
  | last => rfl
  | next leftmost cut ih => rw [join_cons_of_ne_nil cut.ne_nil, ih]

theorem CutAt.cons (cut : CutAt separator text pieces) (apart : ¬ separator <+: c :: text) :
    CutAt separator (c :: text) (consFirst c pieces) := by
  cases cut with
  | last free => exact .last (by simp [List.infix_cons_iff, apart, free])
  | @next piece rest pieces leftmost cut =>
      have begins : separator.dropLast <+: separator ++ rest :=
        (List.dropLast_prefix _).trans (List.prefix_append _ _)
      have leftmostCons : ¬ separator <:+: c :: piece ++ separator.dropLast := by
        rw [List.cons_append, List.infix_cons_iff, not_or]
        exact ⟨fun starts => apart (starts.trans (by simpa using begins)), leftmost⟩
      exact .next leftmostCons cut

/-- To go through a text is to pass over a passage of some kind where one starts, and over one
character where none does. -/
theorem induction_on_passages (IsPassage : List Char → Prop) {motive : List Char → Prop}
    (filled : ¬ IsPassage []) (nil : motive [])
    (found : ∀ passage rest, IsPassage passage → motive rest → motive (passage ++ rest))
    (plain : ∀ c rest, (∀ passage, IsPassage passage → ¬ passage <+: c :: rest) → motive rest →
      motive (c :: rest))
    (text : List Char) : motive text := by
  induction size : text.length using Nat.strongRecOn generalizing text with
  | ind length ih =>
    by_cases starts : ∃ passage, IsPassage passage ∧ passage <+: text
    · obtain ⟨passage, isPassage, rest, rfl⟩ := starts
      have nonempty : passage ≠ [] := fun empty => filled (empty ▸ isPassage)
      have positive := List.length_pos_of_ne_nil nonempty
      rw [List.length_append] at size
      exact found passage rest isPassage (ih rest.length (by omega) rest rfl)
    · cases text with
      | nil => exact nil
      | cons c rest =>
          rw [List.length_cons] at size
          have apart : ∀ passage, IsPassage passage → ¬ passage <+: c :: rest :=
            fun passage isPassage begins => starts ⟨passage, isPassage, begins⟩
          exact plain c rest apart (ih rest.length (by omega) rest rfl)

theorem induction_on_occurrences {motive : List Char → Prop} (filled : separator ≠ [])
    (nil : motive []) (found : ∀ rest, motive rest → motive (separator ++ rest))
    (plain : ∀ c rest, ¬ separator <+: c :: rest → motive rest → motive (c :: rest))
    (text : List Char) : motive text := by
  induction text using induction_on_passages (· = separator) with
  | filled => exact Ne.symm filled
  | nil => exact nil
  | found passage rest same ih => exact same ▸ found rest ih
  | plain c rest apart ih => exact plain c rest (apart separator rfl) ih

theorem splitFrom_eq (skip : ℕ) (text : List Char) :
    splitFrom separator skip text = split separator (text.drop skip) := by
  induction skip generalizing text with
  | zero => rfl
  | succ skip ih =>
      cases text with
      | nil => rfl
      | cons c rest => exact ih rest

theorem replaceFrom_eq (skip : ℕ) (text : List Char) :
    replaceFrom separator replacement skip text =
      replace separator replacement (text.drop skip) := by
  induction skip generalizing text with
  | zero => rfl
  | succ skip ih =>
      cases text with
      | nil => rfl
      | cons c rest => exact ih rest

theorem split_append (filled : separator ≠ []) (rest : List Char) :
    split separator (separator ++ rest) = [] :: split separator rest := by
  obtain ⟨c, tail, rfl⟩ := List.exists_cons_of_ne_nil filled
  have starts : (c :: tail).isPrefixOf (c :: (tail ++ rest)) = true :=
    List.isPrefixOf_iff_prefix.mpr (List.prefix_append (c :: tail) rest)
  rw [List.cons_append, split, splitFrom, if_pos starts, splitFrom_eq]
  simp

theorem split_cons (apart : ¬ separator <+: c :: rest) :
    split separator (c :: rest) = consFirst c (split separator rest) := by
  rw [split, splitFrom, if_neg (mt List.isPrefixOf_iff_prefix.mp apart), split]

theorem replace_append (filled : separator ≠ []) (rest : List Char) :
    replace separator replacement (separator ++ rest) =
      replacement ++ replace separator replacement rest := by
  obtain ⟨c, tail, rfl⟩ := List.exists_cons_of_ne_nil filled
  have starts : (c :: tail).isPrefixOf (c :: (tail ++ rest)) = true :=
    List.isPrefixOf_iff_prefix.mpr (List.prefix_append (c :: tail) rest)
  rw [List.cons_append, replace, replaceFrom, if_pos starts, replaceFrom_eq]
  simp

theorem replace_cons (apart : ¬ separator <+: c :: rest) :
    replace separator replacement (c :: rest) = c :: replace separator replacement rest := by
  rw [replace, replaceFrom, if_neg (mt List.isPrefixOf_iff_prefix.mp apart), replace]

theorem not_infix_dropLast (filled : separator ≠ []) : ¬ separator <:+: separator.dropLast := by
  intro inside
  have length := inside.length_le
  have := List.length_pos_of_ne_nil filled
  rw [List.length_dropLast] at length
  omega

theorem cutAt_split (filled : separator ≠ []) (text : List Char) :
    CutAt separator text (split separator text) := by
  induction text using induction_on_occurrences filled with
  | nil => exact .last (by simpa using filled)
  | found rest ih =>
      rw [split_append filled]
      have leftmost : ¬ separator <:+: [] ++ separator.dropLast := not_infix_dropLast filled
      exact .next leftmost ih
  | plain c rest apart ih =>
      rw [split_cons apart]
      exact ih.cons apart

theorem join_consFirst (several : pieces ≠ []) (c : Char) :
    join replacement (consFirst c pieces) = c :: join replacement pieces := by
  obtain ⟨piece, rest, rfl⟩ := List.exists_cons_of_ne_nil several
  rw [consFirst, join_cons, join_cons, List.cons_append]

theorem replace_eq_join (filled : separator ≠ []) (text : List Char) :
    replace separator replacement text = join replacement (split separator text) := by
  induction text using induction_on_occurrences filled with
  | nil => rfl
  | found rest ih =>
      rw [replace_append filled, split_append filled, ih,
        join_cons_of_ne_nil (cutAt_split filled rest).ne_nil, List.nil_append]
  | plain c rest apart ih =>
      rw [replace_cons apart, split_cons apart, ih, join_consFirst (cutAt_split filled rest).ne_nil]

end FlowLogic.Text
