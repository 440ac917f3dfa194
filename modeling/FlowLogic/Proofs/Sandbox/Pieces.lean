import FlowLogic.Proofs.Text.Cuts
import FlowLogic.Sandbox.Function

/-!
Splitting, joining and replacing.  What a text is split into joins to the text again, and to replace
is to split and to join with other text.
-/

namespace FlowLogic.Builtin

variable {separator : String}

theorem asChars_text (cs : List Char) : (text cs).asChars = cs := String.toList_ofList

theorem run_join (clock : ℤ) (pieces : List (List Char)) (separator : String) :
    run clock .join [.arr (pieces.map text), .str separator] =
      .ok (text (Text.join separator.toList pieces)) := by
  have asTexts : (pieces.map text).map Json.asChars = pieces := by
    simp [asChars_text, Function.comp_def]
  change Except.ok (text (Text.join separator.toList ((pieces.map text).map Json.asChars))) = _
  rw [asTexts]

/-- The pieces that a text is split into: its characters, if there is no separator. -/
def pieces (separator subject : List Char) : List (List Char) :=
  if separator = [] then subject.map fun c => [c] else Text.split separator subject

theorem run_split (clock : ℤ) (subject separator : String) :
    run clock .split [.str subject, .str separator] =
      .ok (.arr ((pieces separator.toList subject.toList).map text)) := by
  change splitAll [.str subject, .str separator] = _
  by_cases empty : separator.toList = []
  · simp [splitAll, pieces, textAt, Json.asChars, empty]
  · simp [splitAll, pieces, textAt, Json.asChars, empty]

theorem run_replace (clock : ℤ) (subject replacement : String) (filled : separator.toList ≠ []) :
    run clock .replace [.str subject, .str separator, .str replacement] =
      .ok (text (Text.replace separator.toList replacement.toList subject.toList)) := by
  change replaceAll [.str subject, .str separator, .str replacement] = _
  simp [replaceAll, textAt, Json.asChars, filled]

theorem join_pieces (separator subject : List Char) :
    Text.join separator (pieces separator subject) = subject := by
  unfold pieces
  split
  next empty =>
    subst empty
    cases subject with
    | nil => rfl
    | cons c rest => simp [Text.join_cons, List.flatMap_map]
  next filled => exact (Text.cutAt_split filled subject).join_eq

/-- A text is split into its characters or cut at the leftmost occurrences of the separator.  The
pieces join to the text again, and with other text between them to the text with each occurrence
replaced. -/
theorem run_join_split (clock : ℤ) (subject separator : String) :
    ∃ pieces : List (List Char),
      run clock .split [.str subject, .str separator] = .ok (.arr (pieces.map text)) ∧
      run clock .join [.arr (pieces.map text), .str separator] = .ok (.str subject) ∧
      (separator = "" → pieces = subject.toList.map fun c => [c]) ∧
      (separator ≠ "" → Text.CutAt separator.toList subject.toList pieces ∧
        ∀ replacement : String, ∃ result,
          run clock .replace [.str subject, .str separator, .str replacement] = .ok (.str result) ∧
          run clock .join [.arr (pieces.map text), .str replacement] = .ok (.str result)) := by
  refine ⟨pieces separator.toList subject.toList, run_split clock subject separator, ?_, ?_, ?_⟩
  · rw [run_join, join_pieces, text, String.ofList_toList]
  · rintro rfl
    exact if_pos rfl
  · intro filled
    have nonempty : separator.toList ≠ [] := by simpa using filled
    have cut : pieces separator.toList subject.toList =
        Text.split separator.toList subject.toList := if_neg nonempty
    refine ⟨cut ▸ Text.cutAt_split nonempty _, fun replacement =>
      ⟨_, run_replace clock subject replacement nonempty, ?_⟩⟩
    rw [run_join, cut, Text.replace_eq_join nonempty, text]

theorem run_join_split_of_overlap :
    "aa" ≠ "" ∧ ∃ pieces : List (List Char),
      run 0 .split [.str "aaa", .str "aa"] = .ok (.arr (pieces.map text)) ∧
      Text.CutAt ['a', 'a'] ['a', 'a', 'a'] pieces ∧
      run 0 .replace [.str "aaa", .str "aa", .str "-"] = .ok (.str "-a") ∧
      run 0 .join [.arr (pieces.map text), .str "-"] = .ok (.str "-a") := by
  obtain ⟨pieces, runs, _, _, filled⟩ := run_join_split 0 "aaa" "aa"
  obtain ⟨cut, replaced⟩ := filled (by decide)
  obtain ⟨result, replaces, joins⟩ := replaced "-"
  have shown : run 0 .replace [.str "aaa", .str "aa", .str "-"] = .ok (.str "-a") := by rfl
  cases replaces.symm.trans shown
  exact ⟨by decide, pieces, runs, cut, shown, joins⟩

end FlowLogic.Builtin
