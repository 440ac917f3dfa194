import FlowLogic.Proofs.Number.Extended
import FlowLogic.Proofs.Outcome
import FlowLogic.Sandbox.Function

/-!
Excerpts of texts.  The positions of an excerpt are reckoned in integers of 64 bits, at whose ends
numbers and sums stay.  Since a text has fewer characters than these integers can count, the excerpt
is the one that integers without bounds give, with the infinities among them.
-/

namespace FlowLogic

namespace Excerpt

open Builtin (slice saturatedSum startOf stopOf countAt numeric numberAt substring text textAt)
open ExtendedInt Outcome

/-- Where an excerpt of a text of the given size starts; a start below zero counts from the end. -/
def first (size : ℕ) (start : ExtendedInt) : ExtendedInt :=
  if start < 0 then max 0 (size + start) else min start size

/-- Where an excerpt stops; a count below zero stops short of the end. -/
def last (size : ℕ) (i : ExtendedInt) : Option ExtendedInt → ExtendedInt
  | none => size
  | some count => if count < 0 then max i (size + count) else min size (i + count)

/-- The text has the characters of another from the place where an excerpt starts up to the place
where it stops. -/
def IsTakenFrom (cs : List Char) (start : ExtendedInt) (count : Option ExtendedInt)
    (excerpt : List Char) : Prop :=
  ∃ i j : ℕ, i ≤ j ∧ j ≤ cs.length ∧ (i : ExtendedInt) = first cs.length start ∧
    (j : ExtendedInt) = last cs.length i count ∧ excerpt = (cs.take j).drop i

variable {cs : List Char} {size : ℕ} {start : ℤ}

theorem slice_eq {i j : ℕ} (le : i ≤ j) (inside : j ≤ cs.length) :
    slice cs i j = .ok ((cs.take j).drop i) := by
  have counted : ((j : ℤ) - i).toNat = j - i := by omega
  rw [slice, if_pos (by omega), counted, Int.toNat_natCast, List.drop_take]

theorem startOf_bounds (size : ℕ) (given : ℤ) :
    0 ≤ startOf size given ∧ startOf size given ≤ size := by
  unfold startOf saturatedSum
  split <;> omega

theorem stopOf_le (inside : start ≤ size) (given : Option ℤ) : stopOf size start given ≤ size := by
  cases given with
  | none => exact le_refl _
  | some given =>
      unfold stopOf saturatedSum
      dsimp only
      split <;> omega

section

variable (fits : size ≤ 9223372036854775807)
include fits

theorem startOf_eq (x : Binary64) :
    (startOf size x.toInt64 : ExtendedInt) = first size x.wholePart := by
  -- An infinite number turns into the outermost integer, which lies beyond the text all the same.
  rcases x.toInt64_cases with ⟨value, whole, given⟩ | ⟨whole, given⟩ | ⟨whole, given⟩
  · have unbounded : startOf size x.toInt64 =
        if value < 0 then max 0 (size + value) else min value size := by
      simp only [startOf, saturatedSum, given]
      omega
    rw [unbounded, first, whole]
    norm_cast
  · have lowest : startOf size x.toInt64 = 0 := by
      simp only [startOf, saturatedSum, given]
      omega
    simp [lowest, first, whole]
  · have greatest : startOf size x.toInt64 = size := by
      simp only [startOf, saturatedSum, given]
      omega
    simp [greatest, first, whole]

theorem stopOf_eq {i : ℕ} (inside : i ≤ size) (y : Binary64) :
    (stopOf size i (some y.toInt64) : ExtendedInt) = last size i (some y.wholePart) := by
  rcases y.toInt64_cases with ⟨value, whole, given⟩ | ⟨whole, given⟩ | ⟨whole, given⟩
  · have unbounded : stopOf size i (some y.toInt64) =
        if value < 0 then max (i : ℤ) (size + value) else min (size : ℤ) (i + value) := by
      simp only [stopOf, saturatedSum, given]
      omega
    rw [unbounded, last, whole]
    norm_cast
  · have lowest : stopOf size i (some y.toInt64) = i := by
      simp only [stopOf, saturatedSum, given]
      omega
    simp [lowest, last, whole]
  · have greatest : stopOf size i (some y.toInt64) = size := by
      simp only [stopOf, saturatedSum, given]
      omega
    simp [greatest, last, whole]

theorem le_stopOf {i : ℕ} (inside : i ≤ size) (count : Option Binary64) :
    i ≤ stopOf size i (count.map Binary64.toInt64) := by
  cases count with
  | none => exact Int.ofNat_le.mpr inside
  | some y =>
      simp only [Option.map_some, stopOf, saturatedSum]
      omega

theorem stopOf_map {i : ℕ} (inside : i ≤ size) (count : Option Binary64) :
    (stopOf size i (count.map Binary64.toInt64) : ExtendedInt) =
      last size i (count.map Binary64.wholePart) := by
  cases count with
  | none => rfl
  | some y => exact stopOf_eq fits inside y

end

theorem exists_run {clock : ℤ} {arguments : List Json} {x : Binary64} (count : Option Binary64)
    (fits : (textAt arguments 0).length ≤ 9223372036854775807)
    (numbered : numberAt arguments 1 = .ok x)
    (counted : countAt arguments 2 = .ok (count.map Binary64.toInt64)) :
    ∃ excerpt, Builtin.run clock .substr arguments = .ok (text excerpt) ∧
      IsTakenFrom (textAt arguments 0) x.wholePart (count.map Binary64.wholePart) excerpt := by
  have run : Builtin.run clock .substr arguments = substring arguments := rfl
  rw [run, substring, numbered, ok_bind, counted, ok_bind]
  generalize textAt arguments 0 = cs at fits ⊢
  obtain ⟨low, high⟩ := startOf_bounds cs.length x.toInt64
  obtain ⟨i, starts⟩ := Int.eq_ofNat_of_zero_le low
  rw [starts] at high
  have inside := Int.ofNat_le.mp high
  have le := le_stopOf fits inside count
  obtain ⟨j, stops⟩ := Int.eq_ofNat_of_zero_le ((Int.natCast_nonneg i).trans le)
  have stopsInside := stopOf_le high (count.map Binary64.toInt64)
  rw [stops] at le stopsInside
  have sliced := slice_eq (Int.ofNat_le.mp le) (Int.ofNat_le.mp stopsInside)
  refine ⟨(cs.take j).drop i, ?_, i, j, Int.ofNat_le.mp le, Int.ofNat_le.mp stopsInside, ?_, ?_, rfl⟩
  · simp only [starts, stops, max_eq_right le, sliced, ok_bind, pure_eq_ok]
  · rw [← startOf_eq fits, starts, cast_natCast]
  · rw [← stopOf_map fits inside, stops, cast_natCast]

theorem numeric_of_toNumber? {value : Json} {x : Binary64} (position : ℕ)
    (number : value.toNumber? = some x) : numeric position value = .ok x := by
  cases value with
  | null | bool => cases number
  | num | str | arr | obj => simp [numeric, number]

section

variable (clock : ℤ) {subject start count : Json} {x y : Binary64}
  (fits : subject.asChars.length ≤ 9223372036854775807) (number : start.toNumber? = some x)
include fits number

theorem exists_run_rest (rest : List Json) (unlimited : rest = [] ∨ rest = [.null]) :
    ∃ excerpt, Builtin.run clock .substr (subject :: start :: rest) = .ok (text excerpt) ∧
      IsTakenFrom subject.asChars x.wholePart none excerpt := by
  have numbered := numeric_of_toNumber? 1 number
  rcases unlimited with rfl | rfl
  · exact exists_run none fits numbered rfl
  · exact exists_run none fits numbered rfl

theorem exists_run_count (limit : count.toNumber? = some y) :
    ∃ excerpt, Builtin.run clock .substr [subject, start, count] = .ok (text excerpt) ∧
      IsTakenFrom subject.asChars x.wholePart (some y.wholePart) excerpt := by
  have counted : countAt [subject, start, count] 2 = .ok (some y.toInt64) := by
    have read : numberAt [subject, start, count] 2 = .ok y := numeric_of_toNumber? 2 limit
    cases count with
    | null | bool => cases limit
    | num | str | arr | obj => simp [countAt, read]
  exact exists_run (some y) fits (numeric_of_toNumber? 1 number) counted

end

theorem last_zero (size : ℕ) (count : ExtendedInt) :
    last size 0 (some count) = first size count := by
  rw [last, first, zero_add, min_comm]

theorem IsTakenFrom.append {count : ExtendedInt} {front back : List Char}
    (taken : IsTakenFrom cs 0 (some count) front) (rest : IsTakenFrom cs count none back) :
    front ++ back = cs := by
  obtain ⟨i, j, _, _, starts, stops, rfl⟩ := taken
  obtain ⟨k, l, _, _, startsRest, stopsRest, rfl⟩ := rest
  have origin : i = 0 := by
    simpa [first] using starts
  subst origin
  have meets : j = k := by
    rw [Nat.cast_zero, last_zero, ← startsRest] at stops
    exact_mod_cast stops
  have ends : l = cs.length := by
    rw [last] at stopsRest
    exact_mod_cast stopsRest
  rw [meets, ends, List.drop_zero, List.take_length, List.take_append_drop]

/-- The function gives the excerpt that its arguments ask for in integers without bounds, a length
that is missing or `null` asking for the rest of the text.  The excerpt up to some place and the one
from there on make up the text.  A text held in memory is no longer than the bound. -/
theorem run_substr_isTakenFrom (clock : ℤ) (subject : Json)
    (fits : subject.asChars.length ≤ 9223372036854775807) :
    (∀ (start : Json) (x : Binary64), start.toNumber? = some x →
      (∀ rest : List Json, rest = [] ∨ rest = [.null] →
        ∃ excerpt, Builtin.run clock .substr (subject :: start :: rest) = .ok (text excerpt) ∧
          IsTakenFrom subject.asChars x.wholePart none excerpt) ∧
      ∀ (count : Json) (y : Binary64), count.toNumber? = some y →
        ∃ excerpt, Builtin.run clock .substr [subject, start, count] = .ok (text excerpt) ∧
          IsTakenFrom subject.asChars x.wholePart (some y.wholePart) excerpt) ∧
    ∀ (place : Json) (y : Binary64), place.toNumber? = some y →
      ∃ front back,
        Builtin.run clock .substr [subject, .num (.int 0 (by decide)), place] = .ok (text front) ∧
        Builtin.run clock .substr [subject, place] = .ok (text back) ∧
        front ++ back = subject.asChars := by
  refine ⟨fun start x number => ⟨exists_run_rest clock fits number, fun count y =>
    exists_run_count clock fits number⟩, ?_⟩
  intro place y number
  have zero : (Json.num (.int 0 (by decide))).toNumber? = some (.ofInt 0) := rfl
  obtain ⟨front, runFront, taken⟩ := exists_run_count clock fits zero number
  obtain ⟨back, runBack, takenRest⟩ := exists_run_rest clock fits number [] (.inl rfl)
  rw [Binary64.wholePart_ofInt_zero] at taken
  exact ⟨front, back, runFront, runBack, taken.append takenRest⟩

/-- The start `-3.9` counts three from the end, and an infinite length goes up to the end. -/
theorem run_substr_isTakenFrom_of_infinite :
    (Json.str "größer").asChars.length ≤ 9223372036854775807 ∧
      (Json.str "1e999").toNumber? = some (.infinite false) ∧
      Builtin.run 0 .substr [.str "größer", .str " -3.9 ", .str "1e999"] = .ok (.str "ßer") := by
  have fits : (Json.str "größer").asChars.length ≤ 9223372036854775807 := by decide
  have infinite : (Json.str "1e999").toNumber? = some (.infinite false) := by decide +kernel
  obtain ⟨x, number, whole⟩ : ∃ x, (Json.str " -3.9 ").toNumber? = some x ∧
      x.wholePart = ((-3 : ℤ) : ExtendedInt) := by
    have read : (Json.str " -3.9 ").toNumber?.any
        (fun x => decide (x.wholePart = ((-3 : ℤ) : ExtendedInt))) = true := by decide +kernel
    obtain ⟨x, number, whole⟩ := (Option.any_eq_true _ _).mp read
    exact ⟨x, number, of_decide_eq_true whole⟩
  obtain ⟨excerpt, run, i, j, _, _, starts, stops, rfl⟩ :=
    ((run_substr_isTakenFrom 0 _ fits).1 _ _ number).2 _ _ infinite
  have size : (Json.str "größer").asChars.length = 6 := by decide
  have begins : i = 3 := by
    rw [size, whole] at starts
    have third : first 6 ((-3 : ℤ) : ExtendedInt) = (3 : ℕ) := by decide
    exact_mod_cast starts.trans third
  have ends : j = 6 := by
    rw [size, begins] at stops
    have sixth : last 6 (3 : ℕ) (some (Binary64.infinite false).wholePart) = (6 : ℕ) := by decide
    exact_mod_cast stops.trans sixth
  have letters : (Json.str "größer").asChars = ['g', 'r', 'ö', 'ß', 'e', 'r'] := by decide
  refine ⟨fits, infinite, run.trans ?_⟩
  rw [begins, ends, letters]
  rfl

end Excerpt

end FlowLogic
