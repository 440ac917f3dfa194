import FlowLogic.Proofs.Json.Order
import FlowLogic.Proofs.Number.Integers

/-!
Integers as values.  All comparisons see the nearest binary floating point numbers of two integers.
The order of integers is therefore never turned round, but neighbours beyond 53 binary digits can
come out equal, also under strict equality.
-/

namespace FlowLogic.Json

open Binary64

variable {m n : Int} {range : -9223372036854775808 ≤ m ∧ m < 18446744073709551616}
  {rangeOther : -9223372036854775808 ≤ n ∧ n < 18446744073709551616}

structure ComparedAs (a b : Json) (order : Ordering) : Prop where
  strict : strictEq a b = true ↔ order = .eq
  loose : looseEq a b = true ↔ order = .eq
  ordered : order? a b = some order

theorem comparedAs_int :
    ComparedAs (.num (.int m range)) (.num (.int n rangeOther))
      (compare (nearestInt m) (nearestInt n)) := by
  have ordered : order? (.num (.int m range)) (.num (.int n rangeOther)) =
      some (compare (nearestInt m) (nearestInt n)) := by
    simp only [order?, scalarOrder, toNumber?, JsonNumber.toBinary64]
    exact compare_ofInt (by omega) (by omega)
  refine ⟨?_, ?_, ordered⟩
  · rw [strictEq, JsonNumber.toBinary64, JsonNumber.toBinary64, numEq,
      compare_ofInt (by omega) (by omega), beq_iff_eq, Option.some_inj]
  · rw [← order?_eq_iff (by simp [kind]) (by simp [kind]), ordered, Option.some_inj]

/-- Integers are told apart if one has at most 53 binary digits or they are not close together. -/
def ToldApart (m n : Int) : Prop :=
  m.natAbs < 9007199254740992 ∨ n.natAbs < 9007199254740992 ∨ 2048 < (m - n).natAbs

theorem compare_nearestInt (told : ToldApart m n) (small : m.natAbs < 18446744073709551616)
    (smallOther : n.natAbs < 18446744073709551616) :
    compare (nearestInt m) (nearestInt n) = compare m n := by
  have less : ∀ {m n : Int}, ToldApart m n → m.natAbs < 18446744073709551616 →
      n.natAbs < 18446744073709551616 → m < n → nearestInt m < nearestInt n := by
    intro m n told small smallOther less
    rcases told with tiny | tiny | apart
    · exact nearestInt_lt_of_small less (.inl tiny)
    · exact nearestInt_lt_of_small less (.inr tiny)
    · exact nearestInt_lt_of_apart (by omega) small smallOther
  rcases lt_trichotomy m n with lt | rfl | gt
  · rw [compare_lt_iff_lt.mpr lt, compare_lt_iff_lt]
    exact less told small smallOther lt
  · rw [Std.ReflOrd.compare_self, Std.ReflOrd.compare_self]
  · rw [compare_gt_iff_gt.mpr gt, compare_gt_iff_gt]
    exact less (by unfold ToldApart at told ⊢; omega) smallOther small gt

/-- Integers of 64 bits are compared as the nearest integers with 53 binary digits.  The order is
never turned round, and the comparison is exact for integers that are told apart. -/
theorem integers_compare_as_nearest
    (range : -9223372036854775808 ≤ m ∧ m < 18446744073709551616)
    (rangeOther : -9223372036854775808 ≤ n ∧ n < 18446744073709551616) :
    (OnGrid (nearestInt m) ∧
      ∀ other, OnGrid other → (nearestInt m - m).natAbs ≤ (other - m).natAbs) ∧
    ComparedAs (.num (.int m range)) (.num (.int n rangeOther))
      (compare (nearestInt m) (nearestInt n)) ∧
    (m ≤ n → order? (.num (.int m range)) (.num (.int n rangeOther)) ≠ some .gt) ∧
    (ToldApart m n ∨ m = n →
      ComparedAs (.num (.int m range)) (.num (.int n rangeOther)) (compare m n)) := by
  refine ⟨⟨nearestInt_onGrid m, fun other => nearestInt_nearest m⟩, comparedAs_int, ?_, ?_⟩
  · intro le greater
    rw [comparedAs_int.ordered, Option.some_inj, compare_gt_iff_gt] at greater
    exact absurd (nearestInt_mono le) (not_le_of_gt greater)
  · intro told
    have same : compare (nearestInt m) (nearestInt n) = compare m n := by
      rcases told with told | rfl
      · exact compare_nearestInt told (by omega) (by omega)
      · rw [Std.ReflOrd.compare_self, Std.ReflOrd.compare_self]
    rw [← same]
    exact comparedAs_int

theorem integers_compare_as_nearest_at_greatest :
    ∃ greatest lower neighbour : Json,
      greatest = .num (.int 18446744073709551615 (by decide)) ∧
      lower = .num (.int 18446744073709549000 (by decide)) ∧
      neighbour = .num (.int 18446744073709551614 (by decide)) ∧
      order? lower greatest = some .lt ∧ strictEq lower greatest = false ∧
      strictEq neighbour greatest = true := by
  obtain ⟨_, _, _, exact⟩ := integers_compare_as_nearest (m := 18446744073709549000)
    (n := 18446744073709551615) (by decide) (by decide)
  obtain ⟨strict, _, order⟩ := exact (.inl (by unfold ToldApart; decide))
  obtain ⟨_, ⟨neighbours, _, _⟩, _⟩ := integers_compare_as_nearest (m := 18446744073709551614)
    (n := 18446744073709551615) (by decide) (by decide)
  refine ⟨_, _, _, rfl, rfl, rfl, order, ?_, neighbours.mpr ?_⟩
  · rw [Bool.eq_false_iff, ne_eq, strict]
    decide
  · decide +kernel

theorem neighbours_compare_equal :
    ∃ m n : Json, m = .num (.int 9007199254740993 (by decide)) ∧
      n = .num (.int 9007199254740992 (by decide)) ∧ m ≠ n ∧
      strictEq m n = true ∧ looseEq m n = true ∧ order? m n = some .eq := by
  refine ⟨_, _, rfl, rfl, nofun, ?_, ?_, ?_⟩ <;> decide +kernel

end FlowLogic.Json
