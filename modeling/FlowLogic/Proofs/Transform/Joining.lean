import FlowLogic.Proofs.Outcome
import FlowLogic.Transform.Chain
import Mathlib.Data.List.Forall2

/-!
Chains behind one another.  A cursor that has read a whole chain stands outside of quotes and
parentheses, as it did at the start; so the point between two chains cuts, and the second chain is
cut as it is alone.
-/

namespace FlowLogic

open Outcome

theorem Text.consFirst_ne_nil (c : Char) (pieces : List (List Char)) : consFirst c pieces ≠ [] := by
  cases pieces <;> exact List.cons_ne_nil _ _

theorem Text.consFirst_append (c : Char) {pieces : List (List Char)} (filled : pieces ≠ [])
    (more : List (List Char)) : consFirst c pieces ++ more = consFirst c (pieces ++ more) := by
  cases pieces with
  | nil => exact absurd rfl filled
  | cons piece pieces => rfl

namespace Chain

namespace Cursor

def next (cursor : Cursor) (c : Char) : Except ChainFault (Option Cursor) :=
  match cursor.quote with
  | some q =>
    .ok <| some <|
      if cursor.escaped then { cursor with escaped := false }
      else if c = '\\' then { cursor with escaped := true }
      else if c = q then { cursor with quote := none }
      else cursor
  | none =>
    if c = '\'' ∨ c = '"' then .ok (some { cursor with quote := some c })
    else if c = '(' then .ok (some { cursor with depth := cursor.depth + 1 })
    else if c = ')' then
      if cursor.depth = 0 then .error .strayClose
      else .ok (some { cursor with depth := cursor.depth - 1 })
    else if c = '.' ∧ cursor.depth = 0 then .ok none
    else .ok (some cursor)

/-- Outside of quotes no character is taken as it is. -/
def Plain (cursor : Cursor) : Prop := cursor.quote = none → cursor.escaped = false

variable {cursor after : Cursor} {c : Char}

theorem plain_start : start.Plain := fun _ => rfl

theorem Plain.eq_start (plain : cursor.Plain) (unquoted : cursor.quote = none)
    (closed : cursor.depth = 0) : cursor = start := by
  obtain ⟨depth, quote, escaped⟩ := cursor
  have still : escaped = false := plain unquoted
  simp only at unquoted closed
  rw [unquoted, closed, still, start]

theorem Plain.next (plain : cursor.Plain) (moves : cursor.next c = .ok (some after)) :
    after.Plain := by
  intro unquoted
  unfold Cursor.next at moves
  split at moves
  next q quoted =>
    cases moves
    split at unquoted
    next => simp [quoted] at unquoted
    next still =>
      rw [if_neg still]
      split at unquoted
      next => simp [quoted] at unquoted
      next noSlash =>
        rw [if_neg noSlash]
        split <;> simpa using still
  next outside =>
    have still := plain outside
    split at moves
    next =>
      cases moves
      cases unquoted
    next => grind

end Cursor

variable {cursor : Cursor} {cs : List Char} {pieces : List (List Char)}

theorem cutFrom_cons (cursor : Cursor) (c : Char) (rest : List Char) :
    cutFrom cursor (c :: rest) =
      match cursor.next c with
      | .error fault => .error fault
      | .ok (some after) => (cutFrom after rest).map (Text.consFirst c)
      | .ok none => (cutFrom cursor rest).map ([] :: ·) := by
  rw [cutFrom, Cursor.next]
  cases cursor.quote with
  | some q => rfl
  | none => grind

theorem cutFrom_ne_nil (cut : cutFrom cursor cs = .ok pieces) : pieces ≠ [] := by
  cases cs with
  | nil => grind [cutFrom]
  | cons c rest =>
      rw [cutFrom_cons] at cut
      split at cut
      next => cases cut
      next =>
        obtain ⟨others, _, rfl⟩ := map_eq_ok.mp cut
        exact Text.consFirst_ne_nil c others
      next =>
        obtain ⟨others, _, rfl⟩ := map_eq_ok.mp cut
        exact List.cons_ne_nil [] others

theorem Cursor.Plain.ends (plain : cursor.Plain) (cut : cutFrom cursor [] = .ok pieces) :
    cursor = .start ∧ pieces = [[]] := by
  simp only [cutFrom] at cut
  split at cut
  next => cases cut
  next unquoted =>
    split at cut
    next => cases cut
    next closed =>
      cases cut
      exact ⟨plain.eq_start (by simpa using unquoted) (by simpa using closed), rfl⟩

/-- A text that is cut without a fault leaves its reader as it found it. -/
theorem cutFrom_append (plain : cursor.Plain) (cut : cutFrom cursor cs = .ok pieces)
    (rest : List Char) :
    cutFrom cursor (cs ++ '.' :: rest) = (cutFrom .start rest).map (pieces ++ ·) := by
  induction cs generalizing cursor pieces with
  | nil =>
      obtain ⟨rfl, rfl⟩ := plain.ends cut
      rfl
  | cons c cs ih =>
      rw [cutFrom_cons] at cut
      rw [List.cons_append, cutFrom_cons]
      split at cut
      next => cases cut
      next after moves =>
        obtain ⟨others, cutRest, rfl⟩ := map_eq_ok.mp cut
        have filled := cutFrom_ne_nil cutRest
        simp only [ih (plain.next moves) cutRest]
        cases cutFrom .start rest with
        | error fault => rfl
        | ok more => simp only [map_ok, Text.consFirst_append c filled]
      next =>
        obtain ⟨others, cutRest, rfl⟩ := map_eq_ok.mp cut
        simp only [ih plain cutRest]
        cases cutFrom .start rest <;> rfl

/-- The text between two points is a call of the transform, whatever chain it stands in. -/
def Reads (piece : List Char) (step : Transform) : Prop :=
  ∀ chain, readStep chain (Text.trim piece) = .ok step

theorem readStep_congr {chain : String} {segment : List Char} {step : Transform}
    (read : readStep chain segment = .ok step) (other : String) :
    readStep other segment = .ok step := by
  unfold readStep at read ⊢
  split at read
  next => cases read
  next name text called =>
    split at read
    next => cases read
    next argument readArgument =>
      unfold namedStep at read ⊢
      split at read
      next => exact read
      next =>
        split at read
        next => cases read
        next => exact read
      next => cases read

theorem readSteps_filled {chain : String} {segments : List (List Char)} {steps : Chain}
    (read : readSteps chain segments = .ok steps) : ∀ segment ∈ segments, segment ≠ [] := by
  induction segments generalizing steps with
  | nil => simp
  | cons segment rest ih =>
      obtain ⟨step, readFirst, read⟩ := bind_eq_ok.mp read
      obtain ⟨others, readRest, _⟩ := bind_eq_ok.mp read
      rw [List.forall_mem_cons]
      refine ⟨?_, ih readRest⟩
      rintro rfl
      cases readFirst

theorem readSteps_eq_ok {chain : String} {steps : Chain} :
    readSteps chain (pieces.map Text.trim) = .ok steps ↔ List.Forall₂ Reads pieces steps := by
  induction pieces generalizing steps with
  | nil =>
      rw [List.forall₂_nil_left_iff]
      exact ⟨fun read => (Except.ok.inj read).symm, fun same => same ▸ rfl⟩
  | cons piece pieces ih =>
      rw [List.map_cons, readSteps, List.forall₂_cons_left_iff]
      constructor
      · intro read
        obtain ⟨step, readFirst, read⟩ := bind_eq_ok.mp read
        obtain ⟨others, readRest, returned⟩ := bind_eq_ok.mp read
        exact ⟨step, others, readStep_congr readFirst, ih.mp readRest,
          (Except.ok.inj returned).symm⟩
      · rintro ⟨step, others, reads, readRest, rfl⟩
        rw [reads chain, ok_bind, ih.mpr readRest, ok_bind]

theorem cutFrom_of_segments {text : List Char} {calls : List (List Char)}
    (cut : segments text = .ok calls) (filled : calls ≠ []) :
    ∃ pieces, cutFrom .start text = .ok pieces ∧ calls = pieces.map Text.trim := by
  obtain ⟨pieces, cutText, cut⟩ := bind_eq_ok.mp cut
  refine ⟨pieces, cutText, ?_⟩
  dsimp only at cut
  split at cut
  next => exact absurd (Except.ok.inj cut).symm filled
  next =>
    split at cut
    next => cases cut
    next => exact (Except.ok.inj cut).symm

theorem read_eq_ok {chain : String} {steps : Chain} :
    read chain = .ok steps ↔
      ∃ pieces, cutFrom .start chain.toList = .ok pieces ∧ List.Forall₂ Reads pieces steps := by
  constructor
  · intro readChain
    rw [read] at readChain
    split at readChain
    next => cases readChain
    next => cases readChain
    next calls filled cut =>
      obtain ⟨pieces, cutText, rfl⟩ := cutFrom_of_segments cut filled
      exact ⟨pieces, cutText, readSteps_eq_ok.mp readChain⟩
  · rintro ⟨pieces, cut, reads⟩
    have readAll : readSteps chain (pieces.map Text.trim) = .ok steps := readSteps_eq_ok.mpr reads
    have filled := readSteps_filled readAll
    have notBlank : pieces.map Text.trim ≠ [[]] := by
      intro blank
      exact filled [] (blank ▸ List.mem_singleton.mpr rfl) rfl
    have noEmpty : (pieces.map Text.trim).any List.isEmpty = false := by
      simpa [List.any_eq_false] using filled
    have cutAll : segments chain.toList = .ok (pieces.map Text.trim) := by
      simp only [segments, cut, ok_bind, if_neg notBlank, noEmpty]
      rfl
    rw [read, cutAll]
    cases shape : pieces.map Text.trim with
    | nil => exact absurd (List.map_eq_nil_iff.mp shape) (cutFrom_ne_nil cut)
    | cons segment rest => rwa [shape] at readAll

theorem apply_append (steps later : Chain) (value : Json) :
    apply (steps ++ later) value = apply steps value >>= apply later := by
  induction steps generalizing value with
  | nil => rfl
  | cons step rest ih =>
      rw [List.cons_append, apply, apply]
      cases step.apply value with
      | error failure => rfl
      | ok next => exact ih next

/-- Two chains with a point between them are a chain, which applies the second one to the result of
the first. -/
theorem read_append {chain other : String} {steps later : Chain}
    (readFirst : Chain.read chain = .ok steps) (readLater : Chain.read other = .ok later) :
    Chain.read (chain ++ "." ++ other) = .ok (steps ++ later) ∧
      ∀ value, apply (steps ++ later) value = apply steps value >>= apply later := by
  obtain ⟨pieces, cut, reads⟩ := read_eq_ok.mp readFirst
  obtain ⟨more, cutLater, readsLater⟩ := read_eq_ok.mp readLater
  refine ⟨read_eq_ok.mpr ⟨pieces ++ more, ?_, List.rel_append reads readsLater⟩,
    apply_append steps later⟩
  have text : (chain ++ "." ++ other).toList = chain.toList ++ '.' :: other.toList := by simp
  rw [text, cutFrom_append Cursor.plain_start cut, cutLater, map_ok]

theorem read_append_around_point :
    Chain.read " join( '.\\'(' )" = .ok [.join ".'("] ∧
      Chain.read "toString() .toJson( )" = .ok [.toString, .toJson] ∧
      Chain.read " join( '.\\'(' ).toString() .toJson( )" =
        .ok [.join ".'(", .toString, .toJson] ∧
      apply [.join ".'(", .toString, .toJson] (.arr []) =
        .error (.wrongKind .toJson .string) := by
  have readFirst : Chain.read " join( '.\\'(' )" = .ok [.join ".'("] := by decide
  have readLater : Chain.read "toString() .toJson( )" = .ok [.toString, .toJson] := by decide
  obtain ⟨readBoth, applied⟩ := read_append readFirst readLater
  exact ⟨readFirst, readLater, readBoth, (applied _).trans rfl⟩

end Chain

end FlowLogic
