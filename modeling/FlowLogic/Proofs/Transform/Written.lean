import FlowLogic.Proofs.Program.Fragments
import FlowLogic.Proofs.Transform.Joining

/-!
Chains written out.  A separator stands in single quotes, so that it can hold points, parentheses
and quotes of its own; the reader of the chain, the reader of the call and that of the argument all
take it for one quoted text, and what is read is the chain that was written.
-/

namespace FlowLogic

open Node (escapeQuoted quotedChars)
open Outcome
open Text (Framed)

def Transform.call : Transform → List Char
  | .join separator => "join(".toList ++ (quotedChars separator ++ [')'])
  | step => step.name.toList ++ "()".toList

def Chain.written (steps : Chain) : String :=
  String.ofList (Text.join ['.'] (steps.map Transform.call))

namespace Chain

namespace Cursor

/-- The characters lead from one cursor to the other without a cut. -/
inductive Passes : Cursor → List Char → Cursor → Prop
  | nil (cursor : Cursor) : Passes cursor [] cursor
  | cons {cursor after last : Cursor} {c : Char} {rest : List Char}
      (moves : cursor.next c = .ok (some after)) (later : Passes after rest last) :
      Passes cursor (c :: rest) last

variable {cursor middle last : Cursor} {cs ds : List Char}

theorem Passes.append (first : Passes cursor cs middle) (second : Passes middle ds last) :
    Passes cursor (cs ++ ds) last := by
  induction first with
  | nil => exact second
  | cons moves _ ih => exact .cons moves (ih second)

theorem Passes.cutFrom (passes : Passes cursor cs start) : cutFrom cursor cs = .ok [cs] := by
  generalize ending : start = last at passes
  induction passes with
  | nil =>
      subst ending
      rfl
  | cons moves _ ih =>
      simp only [cutFrom_cons, moves, ih ending]
      rfl

theorem passes_escapes (depth : Nat) (text : List Char) :
    Passes ⟨depth, some '\'', false⟩ (text.flatMap escapeQuoted) ⟨depth, some '\'', false⟩ := by
  induction text with
  | nil => exact .nil _
  | cons c text ih =>
      rw [List.flatMap_cons]
      refine Passes.append ?_ ih
      by_cases special : c = '\\' ∨ c = '\''
      · rw [escapeQuoted, if_pos special]
        exact .cons rfl (.cons rfl (.nil _))
      · rw [escapeQuoted, if_neg special]
        obtain ⟨noSlash, noQuote⟩ := not_or.mp special
        refine .cons ?_ (.nil _)
        simp [next, noSlash, noQuote]

theorem passes_quotedChars (depth : Nat) (text : String) :
    Passes ⟨depth, none, false⟩ (quotedChars text) ⟨depth, none, false⟩ := by
  have closes : Passes ⟨depth, some '\'', false⟩ ['\''] ⟨depth, none, false⟩ :=
    .cons rfl (.nil _)
  exact .cons rfl ((passes_escapes depth text.toList).append closes)

theorem passes_join (separator : String) :
    Passes start (Transform.call (.join separator)) start := by
  have opens : Passes start "join(".toList ⟨1, none, false⟩ :=
    .cons rfl (.cons rfl (.cons rfl (.cons rfl (.cons rfl (.nil _)))))
  have closes : Passes ⟨1, none, false⟩ [')'] start := .cons rfl (.nil _)
  exact opens.append ((passes_quotedChars 1 separator).append closes)

end Cursor

theorem cutFrom_call (step : Transform) : cutFrom .start step.call = .ok [step.call] := by
  cases step with
  | join separator => exact (Cursor.passes_join separator).cutFrom
  | _ => rfl

theorem unescape_plain {c : Char} (noSlash : c ≠ '\\') (rest : List Char) :
    unescape (c :: rest) = c :: unescape rest := by
  conv_lhs => unfold unescape
  split <;> simp_all

theorem unescape_escapes (text : List Char) : unescape (text.flatMap escapeQuoted) = text := by
  induction text with
  | nil => rfl
  | cons c text ih =>
      rw [List.flatMap_cons]
      by_cases special : c = '\\' ∨ c = '\''
      · rw [escapeQuoted, if_pos special, List.cons_append, List.singleton_append, unescape, ih]
      · obtain ⟨noSlash, _⟩ := not_or.mp special
        rw [escapeQuoted, if_neg special, List.singleton_append, unescape_plain noSlash, ih]

theorem readArgument_quotedChars (text : String) :
    readArgument (quotedChars text) = .ok (some text) := by
  have quoted : quotedChars text = '\'' :: (text.toList.flatMap escapeQuoted ++ ['\'']) := rfl
  rw [readArgument, (Node.Fragment.framed_quotedChars text).trim_eq, quoted]
  simp [unescape_escapes]

theorem readCall?_join (separator : String) :
    readCall? (Transform.call (.join separator)) = some ("join", quotedChars separator) := by
  let rest := quotedChars separator ++ [')']
  have within : ∀ c ∈ "join".toList, isNamePart c = true := by simp [isNamePart, isNameStart]
  have stops : Text.StopsAt isNamePart ('(' :: rest) := Text.stopsAt_cons.mpr rfl
  have text : Transform.call (.join separator) = "join".toList ++ '(' :: rest := rfl
  have opens : Text.trimStart ('(' :: rest) = '(' :: rest :=
    Text.trimStart_of_stopsAt (Text.stopsAt_cons.mpr rfl)
  rw [readCall?, text, Text.takeWhile_run within stops, Text.dropWhile_run within stops, opens]
  have last : rest.getLast? = some ')' := List.getLast?_concat
  have inner : rest.dropLast = quotedChars separator := List.dropLast_concat
  have letter : isNameStart 'j' = true := rfl
  simp [last, inner, letter]

theorem framed_call (step : Transform) : Framed step.call := by
  have closes : Framed [')'] := Text.framed_of_visible (by simp) (by simp [Text.isBlank])
  cases step with
  | join separator =>
      have opens : Framed "join(".toList :=
        Text.framed_of_visible (by simp) (by simp [Text.isBlank])
      exact opens.append closes (quotedChars separator)
  | _ =>
      refine Text.framed_of_visible (List.cons_ne_nil _ _) ?_
      simp [Transform.call, Transform.name, Text.isBlank]

theorem reads_call (step : Transform) : Reads step.call step := by
  intro chain
  rw [(framed_call step).trim_eq]
  cases step with
  | join separator =>
      rw [readStep, readCall?_join]
      simp only [readArgument_quotedChars]
      rfl
  | _ => rfl

theorem cutFrom_written {steps : Chain} (filled : steps ≠ []) :
    cutFrom .start (written steps).toList = .ok (steps.map Transform.call) := by
  rw [written, String.toList_ofList]
  induction steps with
  | nil => exact absurd rfl filled
  | cons step rest ih =>
      cases rest with
      | nil => exact cutFrom_call step
      | cons next rest =>
          have text : Text.join ['.'] ((step :: next :: rest).map Transform.call) =
              step.call ++ '.' :: Text.join ['.'] ((next :: rest).map Transform.call) := by
            simp [Text.join]
          rw [text, cutFrom_append Cursor.plain_start (cutFrom_call step),
            ih (List.cons_ne_nil next rest), map_ok]
          rfl

/-- A chain that was written is read as what it was written of, as long as it has a step. -/
theorem read_written (steps : Chain) : Chain.read (written steps) = .ok steps ↔ steps ≠ [] := by
  constructor
  · rintro read rfl
    cases read
  · intro filled
    refine read_eq_ok.mpr ⟨_, cutFrom_written filled, ?_⟩
    rw [List.forall₂_map_left_iff, List.forall₂_same]
    exact fun step _ => reads_call step

example : written [.toArray, .join "').\\", .count] = "toArray().join('\\').\\\\').count()" := by
  decide

end Chain

end FlowLogic
