import FlowLogic.Proofs.Json.Integers
import FlowLogic.Proofs.Number.Extended
import FlowLogic.Sandbox.Function

/-!
The greatest and the least of some numbers.  The function goes through them once and keeps the best
one so far, so that it comes to the first of those that no other one exceeds.  Numbers are compared
as floating point numbers, for which neighbouring large integers can be the same.
-/

namespace FlowLogic

/-- The best of some things by a key is among them; those before it are worse and those after it no
better. -/
def FirstBest {α β : Type} [LinearOrder β] (key : α → β) (seen : List α) (best : α) : Prop :=
  ∃ before after, seen = before ++ best :: after ∧
    (∀ other ∈ before, key other < key best) ∧ ∀ other ∈ after, key other ≤ key best

namespace FirstBest

variable {α β : Type} [LinearOrder β] {key : α → β} {better : α → α → Bool} {seen rest : List α}
  {best : α}

theorem singleton (key : α → β) (only : α) : FirstBest key [only] only :=
  ⟨[], [], rfl, by simp, by simp⟩

theorem mem (first : FirstBest key seen best) : best ∈ seen := by
  obtain ⟨before, after, rfl, _⟩ := first
  simp

theorem le (first : FirstBest key seen best) {other : α} (member : other ∈ seen) :
    key other ≤ key best := by
  obtain ⟨before, after, rfl, worse, noBetter⟩ := first
  rcases List.mem_append.mp member with inBefore | inRest
  · exact (worse other inBefore).le
  · rcases List.mem_cons.mp inRest with rfl | inAfter
    · exact le_refl _
    · exact noBetter other inAfter

theorem step (first : FirstBest key seen best) (next : α) :
    FirstBest key (seen ++ [next]) (if key best < key next then next else best) := by
  split
  next less => exact ⟨seen, [], rfl, fun other member => (first.le member).trans_lt less, by simp⟩
  next atMost =>
    obtain ⟨before, after, rfl, worse, noBetter⟩ := first
    refine ⟨before, after ++ [next], by simp, worse, ?_⟩
    simpa [or_imp, forall_and] using ⟨noBetter, le_of_not_gt atMost⟩

theorem run (first : FirstBest key seen best) (rest : List α)
    (agrees : ∀ a ∈ seen ++ rest, ∀ b ∈ seen ++ rest, better a b = true ↔ key b < key a) :
    FirstBest key (seen ++ rest)
      (rest.foldl (fun best next => if better next best then next else best) best) := by
  induction rest generalizing seen best with
  | nil => simpa using first
  | cons next rest ih =>
      have judged : better next best = true ↔ key best < key next :=
        agrees next (by simp) best (List.mem_append_left _ first.mem)
      have kept : (if better next best then next else best) =
          if key best < key next then next else best := by simp only [judged]
      rw [List.append_cons] at agrees ⊢
      rw [List.foldl_cons, kept]
      exact ih (first.step next) agrees

end FirstBest

namespace Json

def IsNumber (value : Json) : Prop := ∃ x, value.toNumber? = some x

def numberOrder? (a b : Json) : Option Ordering :=
  a.toNumber?.bind fun x => b.toNumber?.bind x.compare

def numberPlace (value : Json) : ExtendedInt := (value.toNumber?.map Binary64.place).getD 0

variable {a b : Json}

theorem numberOrder?_swap (a b : Json) :
    numberOrder? b a = (numberOrder? a b).map Ordering.swap := by
  unfold numberOrder?
  cases a.toNumber? with
  | none => cases b.toNumber? <;> rfl
  | some x =>
      cases b.toNumber? with
      | none => rfl
      | some y => exact Binary64.compare_swap x y

theorem numberOrder?_eq_places (numeric : a.IsNumber) (numericOther : b.IsNumber) :
    numberOrder? a b = some (compare a.numberPlace b.numberPlace) := by
  obtain ⟨x, number⟩ := numeric
  obtain ⟨y, numberOther⟩ := numericOther
  have proper : x ≠ .nan := by
    rintro rfl
    exact a.toNumber?_ne_nan number
  have properOther : y ≠ .nan := by
    rintro rfl
    exact b.toNumber?_ne_nan numberOther
  simpa [numberOrder?, numberPlace, number, numberOther] using
    Binary64.compare_eq_places proper properOther

theorem order?_eq_numberOrder? (numeric : a.IsNumber) (numericOther : b.IsNumber) :
    order? a b = numberOrder? a b := by
  obtain ⟨x, number⟩ := numeric
  obtain ⟨y, numberOther⟩ := numericOther
  have scalars : order? a b = scalarOrder a b := by
    cases a with
    | null | bool | arr | obj => cases number
    | num | str =>
        cases b with
        | null | bool | arr | obj => cases numberOther
        | num | str => simp [order?]
  simp [scalars, scalarOrder, numberOrder?, number, numberOther]

end Json

namespace Builtin

open Json

/-- The function that picks an extreme number, and the way in which this one compares to others. -/
inductive Picks : Builtin → Ordering → Prop
  | greatest : Picks .max .gt
  | least : Picks .min .lt

/-- The value is the first of those whose number no other one exceeds in the wanted direction. -/
def PickedFrom (wanted : Ordering) (items : List Json) (best : Json) : Prop :=
  ∃ before after, items = before ++ best :: after ∧
    (∀ value ∈ before, numberOrder? best value = some wanted) ∧
    ∀ value ∈ after, numberOrder? best value = some wanted ∨ numberOrder? best value = some .eq

variable {clock : ℤ} {builtin : Builtin} {wanted : Ordering} {items others : List Json} {best : Json}

theorem spread_of_numbers (numeric : ∀ value ∈ items, value.IsNumber) : spread items = items := by
  unfold spread
  split
  next members =>
    obtain ⟨x, number⟩ := numeric (.arr members) (List.mem_singleton_self _)
    cases number
  next => rfl

theorem PickedFrom.of_firstBest {β : Type} [LinearOrder β] {key : Json → β}
    (less : ∀ value ∈ items, key value < key best → numberOrder? best value = some wanted)
    (equal : ∀ value ∈ items, key value = key best → numberOrder? best value = some .eq)
    (first : FirstBest key items best) : PickedFrom wanted items best := by
  obtain ⟨before, after, rfl, worse, noBetter⟩ := first
  refine ⟨before, after, rfl, fun value member => ?_, fun value member => ?_⟩
  · exact less value (List.mem_append_left _ member) (worse value member)
  · have inside : value ∈ before ++ best :: after := by simp [member]
    rcases (noBetter value member).lt_or_eq with below | same
    · exact .inl (less value inside below)
    · exact .inr (equal value inside same)

theorem exists_extreme_of_key {β : Type} [LinearOrder β] (key : Json → β) (filled : items ≠ [])
    (numeric : ∀ value ∈ items, value.IsNumber)
    (beyond : ∀ a b : Json, a.IsNumber → b.IsNumber →
      (numberOrder? a b = some wanted ↔ key b < key a))
    (level : ∀ a b : Json, a.IsNumber → b.IsNumber → key b = key a →
      numberOrder? a b = some .eq) :
    ∃ best, extreme wanted items = .ok best ∧ PickedFrom wanted items best := by
  obtain ⟨only, rest, rfl⟩ := List.exists_cons_of_ne_nil filled
  have agrees : ∀ a ∈ [only] ++ rest, ∀ b ∈ [only] ++ rest,
      (order? a b == some wanted) = true ↔ key b < key a := by
    intro a inside b insideOther
    rw [beq_iff_eq, order?_eq_numberOrder? (numeric a inside) (numeric b insideOther)]
    exact beyond a b (numeric a inside) (numeric b insideOther)
  have first := (FirstBest.singleton key only).run rest agrees
  have kept := numeric _ first.mem
  refine ⟨_, ?_, .of_firstBest ?_ ?_ first⟩
  · rw [extreme, spread_of_numbers numeric]
  · exact fun value member => (beyond _ value kept (numeric value member)).mpr
  · exact fun value member => level _ value kept (numeric value member)

theorem exists_extreme (picks : Picks builtin wanted) (filled : items ≠ [])
    (numeric : ∀ value ∈ items, value.IsNumber) :
    ∃ best, extreme wanted items = .ok best ∧ PickedFrom wanted items best := by
  cases picks with
  | greatest =>
      refine exists_extreme_of_key numberPlace filled numeric ?_ ?_
      · intro a b number numberOther
        rw [numberOrder?_eq_places number numberOther, Option.some_inj, compare_gt_iff_gt]
      · intro a b number numberOther same
        rw [numberOrder?_eq_places number numberOther, same, Std.ReflOrd.compare_self]
  | least =>
      refine exists_extreme_of_key (OrderDual.toDual ∘ numberPlace) filled numeric ?_ ?_
      · intro a b number numberOther
        rw [numberOrder?_eq_places number numberOther, Option.some_inj, compare_lt_iff_lt]
        exact OrderDual.toDual_lt_toDual.symm
      · intro a b number numberOther same
        rw [numberOrder?_eq_places number numberOther, OrderDual.toDual.injective same,
          Std.ReflOrd.compare_self]

theorem run_eq_extreme (picks : Picks builtin wanted) (arguments : List Json) :
    run clock builtin arguments = extreme wanted arguments := by
  cases picks <;> rfl

theorem extreme_singleton_arr (numeric : ∀ value ∈ items, value.IsNumber) :
    extreme wanted [.arr items] = extreme wanted items := by
  rw [extreme, extreme, spread_of_numbers numeric, spread]

theorem PickedFrom.mem (picked : PickedFrom wanted items best) : best ∈ items := by
  obtain ⟨before, after, rfl, _⟩ := picked
  simp

theorem PickedFrom.atLeast (picked : PickedFrom wanted items best)
    (numeric : ∀ value ∈ items, value.IsNumber) {value : Json} (member : value ∈ items) :
    numberOrder? best value = some wanted ∨ numberOrder? best value = some .eq := by
  have itself : numberOrder? best best = some .eq := by
    have number := numeric best picked.mem
    rw [numberOrder?_eq_places number number, Std.ReflOrd.compare_self]
  obtain ⟨before, after, rfl, beyond, atLeast⟩ := picked
  rcases List.mem_append.mp member with inBefore | inRest
  · exact .inl (beyond value inBefore)
  · rcases List.mem_cons.mp inRest with rfl | inAfter
    · exact .inr itself
    · exact atLeast value inAfter

theorem Picks.wanted_cases (picks : Picks builtin wanted) : wanted = .gt ∨ wanted = .lt := by
  cases picks <;> simp

theorem Picks.eq_of_atLeast (picks : Picks builtin wanted) {other : Json}
    (atLeast : numberOrder? best other = some wanted ∨ numberOrder? best other = some .eq)
    (atLeastOther : numberOrder? other best = some wanted ∨ numberOrder? other best = some .eq) :
    numberOrder? best other = some .eq := by
  rcases atLeast with beyond | equal
  · rw [numberOrder?_swap best other, beyond] at atLeastOther
    rcases picks.wanted_cases with rfl | rfl <;> simp at atLeastOther
  · exact equal

theorem PickedFrom.integers (picked : PickedFrom wanted items best)
    (numeric : ∀ value ∈ items, value.IsNumber) {m n : ℤ}
    {range : -9223372036854775808 ≤ m ∧ m < 18446744073709551616}
    {rangeOther : -9223372036854775808 ≤ n ∧ n < 18446744073709551616}
    (whole : best = .num (.int m range)) (member : .num (.int n rangeOther) ∈ items)
    (told : ToldApart m n) : compare m n = wanted ∨ m = n := by
  have exact : numberOrder? best (.num (.int n rangeOther)) = some (compare m n) := by
    rw [← order?_eq_numberOrder? (numeric _ picked.mem) (numeric _ member), whole,
      comparedAs_int.ordered, compare_nearestInt told (by omega) (by omega)]
  have atLeast := picked.atLeast numeric member
  rwa [exact, Option.some_inj, Option.some_inj, compare_eq_iff_eq] at atLeast

/-- The function that picks the greatest or the least of some numbers gives the first one that no
other exceeds, whether they are its arguments or the items of an array.  Their order decides no more
than which of some equal numbers this is.  Among integers that are told apart the choice is exact. -/
theorem run_picks_first_extreme (clock : ℤ) (picks : Picks builtin wanted) (filled : items ≠ [])
    (numeric : ∀ value ∈ items, value.IsNumber) :
    ∃ best, run clock builtin items = .ok best ∧ run clock builtin [.arr items] = .ok best ∧
      PickedFrom wanted items best ∧
      (∀ others : List Json, others.Perm items →
        ∃ other, run clock builtin others = .ok other ∧ numberOrder? best other = some .eq) ∧
      ∀ m n range rangeOther, best = .num (.int m range) → .num (.int n rangeOther) ∈ items →
        ToldApart m n → compare m n = wanted ∨ m = n := by
  obtain ⟨best, runs, picked⟩ := exists_extreme picks filled numeric
  refine ⟨best, (run_eq_extreme picks _).trans runs, ?_, picked, ?_, ?_⟩
  · rw [run_eq_extreme picks, extreme_singleton_arr numeric, runs]
  · intro others rearranged
    have numericOthers : ∀ value ∈ others, value.IsNumber :=
      fun value member => numeric value (rearranged.mem_iff.mp member)
    have filledOthers : others ≠ [] := by
      rintro rfl
      exact filled rearranged.nil_eq.symm
    obtain ⟨other, runsOthers, pickedOther⟩ := exists_extreme picks filledOthers numericOthers
    refine ⟨other, (run_eq_extreme picks _).trans runsOthers, picks.eq_of_atLeast ?_ ?_⟩
    · exact picked.atLeast numeric (rearranged.mem_iff.mp pickedOther.mem)
    · exact pickedOther.atLeast numericOthers (rearranged.mem_iff.mpr picked.mem)
  · intro m n range rangeOther
    exact picked.integers numeric

/-- The text `1e1` and the number ten exceed three, and the one that comes first is picked. -/
theorem run_picks_first_extreme_of_numeral :
    ∃ three text ten best other : Json,
      three = .num (.int 3 (by decide)) ∧ text = .str " 1e1 " ∧ ten = .num (.int 10 (by decide)) ∧
      (∀ value ∈ [three, text, ten], value.IsNumber) ∧
      run 0 .max [three, text, ten] = .ok best ∧ best = text ∧
      run 0 .max [ten, text, three] = .ok other ∧ numberOrder? best other = some .eq := by
  have read : (Json.str " 1e1 ").toNumber?.isSome = true := by decide +kernel
  have numeric : ∀ value ∈ [Json.num (.int 3 (by decide)), .str " 1e1 ",
      .num (.int 10 (by decide))], value.IsNumber := by
    simp only [List.forall_mem_cons]
    exact ⟨⟨_, rfl⟩, Option.isSome_iff_exists.mp read, ⟨_, rfl⟩, List.forall_mem_nil _⟩
  have greater : order? (.str " 1e1 ") (.num (.int 3 (by decide))) = some .gt := by decide +kernel
  have level : order? (.num (.int 10 (by decide))) (.str " 1e1 ") = some .eq := by decide +kernel
  have picked : run 0 .max [.num (.int 3 (by decide)), .str " 1e1 ", .num (.int 10 (by decide))] =
      .ok (.str " 1e1 ") := by
    simp [run, extreme, spread, greater, level]
  obtain ⟨best, runs, _, _, rearranged, _⟩ :=
    run_picks_first_extreme 0 .greatest (List.cons_ne_nil _ _) numeric
  cases runs.symm.trans picked
  obtain ⟨other, runsOther, equal⟩ := rearranged _ (List.reverse_perm _)
  exact ⟨_, _, _, _, other, rfl, rfl, rfl, numeric, picked, rfl, runsOther, equal⟩

/-- Of two neighbouring integers beyond 53 binary digits the lesser one is picked as the greatest if
it comes first. -/
theorem lesser_neighbour_picked :
    ∃ lesser greater : Json, lesser = .num (.int 9007199254740992 (by decide)) ∧
      greater = .num (.int 9007199254740993 (by decide)) ∧
      (9007199254740992 : ℤ) < 9007199254740993 ∧
      run 0 .max [lesser, greater] = .ok lesser ∧ run 0 .max [greater, lesser] = .ok greater := by
  have level : order? (.num (.int 9007199254740993 (by decide)))
      (.num (.int 9007199254740992 (by decide))) = some .eq := by decide +kernel
  have levelBack : order? (.num (.int 9007199254740992 (by decide)))
      (.num (.int 9007199254740993 (by decide))) = some .eq := by decide +kernel
  refine ⟨_, _, rfl, rfl, by decide, ?_, ?_⟩
  · simp [run, extreme, spread, level]
  · simp [run, extreme, spread, levelBack]

end Builtin

end FlowLogic
