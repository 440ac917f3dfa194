import FlowLogic.Proofs.Number.Integers
import Mathlib.Algebra.Order.Monoid.Unbundled.WithTop

/-!
Floating point numbers among the integers with the two infinities: the place of a number in the
order, and its whole part.
-/

namespace FlowLogic

def ExtendedInt := WithBot (WithTop ℤ)
  deriving LinearOrder, AddCommMonoidWithOne

namespace ExtendedInt

instance : BoundedOrder ExtendedInt where
  bot := (⊥ : WithBot (WithTop ℤ))
  top := WithBot.some ⊤
  bot_le := @bot_le (WithBot (WithTop ℤ)) _ _
  le_top := @le_top (WithBot (WithTop ℤ)) _ _

instance : IntCast ExtendedInt := ⟨fun value => WithBot.some (WithTop.some value)⟩

@[simp, norm_cast] theorem cast_natCast (count : ℕ) :
    ((count : ℤ) : ExtendedInt) = count := rfl

@[simp, norm_cast] theorem cast_zero : ((0 : ℤ) : ExtendedInt) = 0 := rfl

@[norm_cast] theorem cast_add (m n : ℤ) : ((m + n : ℤ) : ExtendedInt) = m + n := rfl

@[norm_cast] theorem cast_le {m n : ℤ} : (m : ExtendedInt) ≤ n ↔ m ≤ n :=
  WithBot.coe_le_coe.trans WithTop.coe_le_coe

@[norm_cast] theorem cast_lt {m n : ℤ} : (m : ExtendedInt) < n ↔ m < n :=
  WithBot.coe_lt_coe.trans WithTop.coe_lt_coe

theorem compare_cast (m n : ℤ) : compare (m : ExtendedInt) n = compare m n := by
  rcases lt_trichotomy m n with less | rfl | more
  · rw [compare_lt_iff_lt.mpr less, compare_lt_iff_lt.mpr (cast_lt.mpr less)]
  · rw [Std.ReflOrd.compare_self, Std.ReflOrd.compare_self]
  · rw [compare_gt_iff_gt.mpr more, compare_gt_iff_gt.mpr (cast_lt.mpr more)]

@[simp, norm_cast] theorem natCast_le {m n : ℕ} : (m : ExtendedInt) ≤ n ↔ m ≤ n :=
  cast_le.trans Int.ofNat_le

instance : CharZero ExtendedInt where
  cast_injective _ _ same := le_antisymm (natCast_le.mp same.le) (natCast_le.mp same.ge)

@[simp] theorem natCast_nonneg (count : ℕ) : 0 ≤ (count : ExtendedInt) :=
  natCast_le.mpr count.zero_le

@[simp] theorem bot_lt_zero : (⊥ : ExtendedInt) < 0 := WithBot.bot_lt_coe _

@[norm_cast] theorem cast_max (m n : ℤ) : ((max m n : ℤ) : ExtendedInt) = max ↑m ↑n := by
  rcases le_total m n with le | le
  · rw [max_eq_right le, max_eq_right (cast_le.mpr le)]
  · rw [max_eq_left le, max_eq_left (cast_le.mpr le)]

@[norm_cast] theorem cast_min (m n : ℤ) : ((min m n : ℤ) : ExtendedInt) = min ↑m ↑n := by
  rcases le_total m n with le | le
  · rw [min_eq_left le, min_eq_left (cast_le.mpr le)]
  · rw [min_eq_right le, min_eq_right (cast_le.mpr le)]

@[simp] theorem natCast_add_bot (count : ℕ) : (count : ExtendedInt) + ⊥ = ⊥ := rfl

@[simp] theorem natCast_add_top (count : ℕ) : (count : ExtendedInt) + ⊤ = ⊤ := rfl

end ExtendedInt

namespace Binary64

/-- The place of a number in the order of numbers, which `nan` has none in. -/
def place : Binary64 → ExtendedInt
  | .nan => 0
  | .infinite true => ⊥
  | .infinite false => ⊤
  | .finite x => (x.scaled : ℤ)

theorem compare_eq_places {x y : Binary64} (number : x ≠ .nan) (numberOther : y ≠ .nan) :
    x.compare y = some (Ord.compare x.place y.place) := by
  cases x with
  | nan => exact absurd rfl number
  | infinite negative =>
      cases y with
      | nan => exact absurd rfl numberOther
      | infinite other => cases negative <;> cases other <;> rfl
      | finite b => cases negative <;> rfl
  | finite a =>
      cases y with
      | nan => exact absurd rfl numberOther
      | infinite other => cases other <;> rfl
      | finite b =>
          rw [compare, place, place, ExtendedInt.compare_cast]

def wholePart : Binary64 → ExtendedInt
  | .nan => 0
  | .infinite true => ⊥
  | .infinite false => ⊤
  | .finite x => (x.truncate : ℤ)

theorem toInt64_cases (x : Binary64) :
    (∃ value : ℤ, x.wholePart = value ∧
        x.toInt64 = max (-9223372036854775808) (min 9223372036854775807 value)) ∨
      (x.wholePart = ⊥ ∧ x.toInt64 = -9223372036854775808) ∨
      (x.wholePart = ⊤ ∧ x.toInt64 = 9223372036854775807) := by
  cases x with
  | nan => exact .inl ⟨0, rfl, by decide⟩
  | infinite negative =>
      cases negative with
      | true => exact .inr (.inl ⟨rfl, rfl⟩)
      | false => exact .inr (.inr ⟨rfl, rfl⟩)
  | finite x => exact .inl ⟨x.truncate, rfl, rfl⟩

theorem wholePart_ofInt_zero : (ofInt 0).wholePart = 0 := by
  have small : (0 : ℤ).natAbs ≤ 18446744073709551616 := by decide
  obtain ⟨x, rounded, scaled⟩ := ofInt_eq_finite small
  have empty : x.units = 0 := by
    rw [nearestInt_of_small (by decide), Int.zero_mul] at scaled
    unfold Finite64.scaled at scaled
    split at scaled <;> omega
  have whole : x.truncate = 0 := by simp [Finite64.truncate, empty]
  rw [rounded, wholePart, whole]
  rfl

end Binary64

end FlowLogic
