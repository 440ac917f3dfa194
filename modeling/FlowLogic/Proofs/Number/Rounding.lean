import FlowLogic.Number.Decimal
import Mathlib.Algebra.Order.Field.Rat
import Mathlib.Algebra.Field.Basic
import Mathlib.Algebra.GroupWithZero.Basic
import Mathlib.Data.Rat.Cast.Defs
import Mathlib.Tactic.FieldSimp
import Mathlib.Tactic.NormNum
import Mathlib.Tactic.Ring
import Mathlib.Tactic.Zify

/-!
Rounding depends on nothing but the magnitude that is rounded.  It keeps what is on the grid, and
the sizes that settle a decimal outright settle it as rounding would; so equal decimals have the
same nearest binary number, and the shortest decimal of a magnitude leads back to it.
-/

namespace FlowLogic

namespace Binary64

-- The exponents are named: powers of numerals would be multiplied out.
theorem exists_one_eq : ∃ places, 1074 = places ∧ one = Nat.pow 2 places := by
  obtain ⟨places, same⟩ : ∃ places, 1074 = places := ⟨_, rfl⟩
  refine ⟨places, same, ?_⟩
  unfold one
  exact congrArg _ same

theorem exists_limit_eq : ∃ places, 2098 = places ∧ limit = Nat.pow 2 places := by
  obtain ⟨places, same⟩ : ∃ places, 2098 = places := ⟨_, rfl⟩
  refine ⟨places, same, ?_⟩
  unfold limit
  exact congrArg _ same

theorem limit_pos : 0 < limit := by
  obtain ⟨places, _, same⟩ := exists_limit_eq
  rw [same]
  exact Nat.pow_pos Nat.two_pos

theorem roundHalfEven_scale {factor : Nat} (positive : 0 < factor) (num den : Nat) :
    roundHalfEven (factor * num) (factor * den) = roundHalfEven num den := by
  have quotients : factor * num / (factor * den) = num / den := Nat.mul_div_mul_left _ _ positive
  have rests : factor * num % (factor * den) = factor * (num % den) :=
    Nat.mul_mod_mul_left factor num den
  have below : ∀ a b : Nat, 2 * (factor * a) < factor * b ↔ 2 * a < b := by
    intro a b
    rw [Nat.mul_left_comm, Nat.mul_lt_mul_left positive]
  have above : ∀ a b : Nat, factor * b < 2 * (factor * a) ↔ b < 2 * a := by
    intro a b
    rw [Nat.mul_left_comm, Nat.mul_lt_mul_left positive]
  simp only [roundHalfEven, quotients, rests, below, above]

theorem roundUnits_scale {factor : Nat} (positive : 0 < factor) (num den : Nat) :
    roundUnits (factor * num) (factor * den) = roundUnits num den := by
  have quotients : factor * num / (factor * den) = num / den := Nat.mul_div_mul_left _ _ positive
  simp only [roundUnits, quotients, Nat.mul_assoc, roundHalfEven_scale positive]

theorem roundUnits_congr {num den other third : Nat} (positive : 0 < den)
    (positiveOther : 0 < third) (same : num * third = other * den) :
    roundUnits num den = roundUnits other third := by
  rw [← roundUnits_scale positiveOther num den, ← roundUnits_scale positive other third]
  rw [Nat.mul_comm third num, same, Nat.mul_comm other den, Nat.mul_comm third den]

theorem roundUnits_of_onGrid {units : Nat} (onGrid : spacing units ∣ units) :
    roundUnits units 1 = units := by
  have rest : units % spacing units = 0 := Nat.mod_eq_zero_of_dvd onGrid
  have positive : 0 < spacing units := Nat.pow_pos (by decide)
  simp only [roundUnits, roundHalfEven, Nat.div_one, Nat.one_mul, rest, Nat.mul_zero,
    if_pos positive]
  exact Nat.div_mul_cancel onGrid

theorem limit_le_roundUnits {num den : Nat} (large : limit ≤ num / den) :
    limit ≤ roundUnits num den := by
  obtain ⟨places, _, same⟩ := exists_limit_eq
  have nonzero : num / den ≠ 0 := Nat.ne_of_gt (Nat.lt_of_lt_of_le limit_pos large)
  rw [same, Nat.pow_eq, ← Nat.le_log2 nonzero] at large
  -- The greatest power of two below the magnitude is on its grid, so rounding keeps it below.
  have onGrid : spacing (num / den) ∣ 2 ^ (num / den).log2 :=
    Nat.pow_dvd_pow 2 (Nat.sub_le _ _)
  calc limit ≤ 2 ^ (num / den).log2 := same ▸ Nat.pow_le_pow_right Nat.two_pos large
    _ = 2 ^ (num / den).log2 / spacing (num / den) * spacing (num / den) :=
        (Nat.div_mul_cancel onGrid).symm
    _ ≤ num / den / spacing (num / den) * spacing (num / den) :=
        Nat.mul_le_mul_right _ (Nat.div_le_div_right (Nat.log2_self_le nonzero))
    _ = num / (den * spacing (num / den)) * spacing (num / den) := by rw [Nat.div_div_eq_div_mul]
    _ ≤ roundUnits num den := Nat.mul_le_mul_right _ (le_roundHalfEven _ _)

theorem roundUnits_of_tiny {num den : Nat} (tiny : 2 * num < den) : roundUnits num den = 0 := by
  have quotient : num / den = 0 := Nat.div_eq_of_lt (by omega)
  have rest : num % den = num := Nat.mod_eq_of_lt (by omega)
  have step : spacing 0 = 1 := rfl
  simp only [roundUnits, roundHalfEven, quotient, step, Nat.mul_one, rest, if_pos tiny]

theorem ofUnits_of_representable {num den units : Nat} (negative : Bool)
    (representable : Representable units) (rounded : roundUnits num den = units) :
    ofUnits negative num den = .finite ⟨negative, units, representable⟩ := by
  subst rounded
  exact dif_pos representable.2

theorem units_of_ofUnits {num den : Nat} {negative : Bool} {x : Finite64}
    (rounded : ofUnits negative num den = .finite x) : roundUnits num den = x.units := by
  unfold ofUnits at rounded
  split at rounded
  next =>
    cases rounded
    rfl
  next => cases rounded

theorem ofUnits_of_tiny {num den : Nat} {negative : Bool} (tiny : 2 * num < den) :
    ofUnits negative num den = zero negative := by
  have none : Representable 0 := ⟨Nat.dvd_zero _, limit_pos⟩
  rw [ofUnits_of_representable negative none (roundUnits_of_tiny tiny), zero,
    ofUnits_of_representable negative none (roundUnits_of_tiny (by decide))]

end Binary64

namespace Decimal

open Binary64

def magnitude (d : Decimal) : ℚ := d.digits * 10 ^ d.exponent

def numerator (d : Decimal) : Nat := d.digits * Nat.pow 10 d.exponent.toNat

def denominator (d : Decimal) : Nat := Nat.pow 10 (-d.exponent).toNat

theorem denominator_pos (d : Decimal) : 0 < d.denominator := Nat.pow_pos (by decide)

theorem magnitude_eq_div (d : Decimal) : d.magnitude = d.numerator / d.denominator := by
  have powers : (10 : ℚ) ^ d.exponent = 10 ^ d.exponent.toNat / 10 ^ (-d.exponent).toNat := by
    rw [← zpow_natCast, ← zpow_natCast, ← zpow_sub₀ (by norm_num)]
    congr 1
    omega
  simp only [magnitude, numerator, denominator, Nat.pow_eq, Nat.cast_mul, Nat.cast_pow, powers]
  push_cast
  rw [mul_div_assoc]

theorem two_pow_le_ten_pow (n : Nat) : 2 ^ (3 * n) ≤ 10 ^ n := by
  rw [Nat.pow_mul]
  exact Nat.pow_le_pow_left (by decide) n

theorem limit_le_of_huge {d : Decimal} (filled : d.digits ≠ 0)
    (huge : (exponentBound : Int) < d.exponent) : limit ≤ d.numerator * one / d.denominator := by
  obtain ⟨places, placesEq, oneEq⟩ := exists_one_eq
  obtain ⟨top, topEq, limitEq⟩ := exists_limit_eq
  have whole : (-d.exponent).toNat = 0 := by omega
  have large : exponentBound + 1 ≤ d.exponent.toNat := by omega
  have powers : top ≤ 3 * (exponentBound + 1) + places := by
    rw [← topEq, ← placesEq, exponentBound]
    decide
  rw [denominator, whole, Nat.pow_eq, Nat.pow_zero, Nat.div_one, numerator, Nat.pow_eq, oneEq,
    limitEq, Nat.pow_eq, Nat.pow_eq]
  calc 2 ^ top ≤ 2 ^ (3 * (exponentBound + 1) + places) := Nat.pow_le_pow_right Nat.two_pos powers
    _ = 2 ^ (3 * (exponentBound + 1)) * 2 ^ places := Nat.pow_add _ _ _
    _ ≤ 10 ^ d.exponent.toNat * 2 ^ places :=
        Nat.mul_le_mul_right _
          ((two_pow_le_ten_pow _).trans (Nat.pow_le_pow_right (by decide) large))
    _ ≤ d.digits * 10 ^ d.exponent.toNat * 2 ^ places :=
        Nat.mul_le_mul_right _ (Nat.le_mul_of_pos_left _ (Nat.pos_of_ne_zero filled))

theorem lt_denominator_of_tiny {d : Decimal}
    (tiny : d.exponent < -((exponentBound + d.digits.log2 : Nat) : Int)) :
    2 * (d.numerator * one) < d.denominator := by
  obtain ⟨places, placesEq, oneEq⟩ := exists_one_eq
  have whole : d.exponent.toNat = 0 := by omega
  have small : exponentBound + d.digits.log2 + 1 ≤ (-d.exponent).toNat := by omega
  rw [denominator, numerator, whole, Nat.pow_eq, Nat.pow_zero, Nat.mul_one, Nat.pow_eq, oneEq,
    Nat.pow_eq]
  calc 2 * (d.digits * 2 ^ places)
      < 2 * (2 ^ (d.digits.log2 + 1) * 2 ^ places) :=
        Nat.mul_lt_mul_of_pos_left
          (Nat.mul_lt_mul_of_pos_right Nat.lt_log2_self (Nat.pow_pos Nat.two_pos)) Nat.two_pos
    _ = 2 ^ (d.digits.log2 + 1 + places + 1) := by
        rw [← Nat.pow_add, Nat.pow_succ _ (d.digits.log2 + 1 + places), Nat.mul_comm]
    _ ≤ 2 ^ (3 * (exponentBound + d.digits.log2 + 1)) :=
        Nat.pow_le_pow_right Nat.two_pos (by rw [← placesEq, exponentBound]; omega)
    _ ≤ 10 ^ (-d.exponent).toNat :=
        (two_pow_le_ten_pow _).trans (Nat.pow_le_pow_right (by decide) small)

theorem toBinary64_eq_ofUnits (d : Decimal) :
    d.toBinary64 = ofUnits d.negative (d.numerator * one) d.denominator := by
  unfold toBinary64
  split
  next empty =>
    rw [numerator, empty, Nat.zero_mul, Nat.zero_mul, ofUnits_of_tiny d.denominator_pos]
  next filled =>
    split
    next huge =>
      have large := limit_le_roundUnits (limit_le_of_huge filled huge)
      rw [ofUnits, dif_neg (Nat.not_lt.mpr large)]
    next =>
      split
      next tiny => rw [ofUnits_of_tiny (lt_denominator_of_tiny tiny)]
      next => rfl

theorem toBinary64_congr {d e : Decimal} (signs : d.negative = e.negative)
    (same : d.magnitude = e.magnitude) : d.toBinary64 = e.toBinary64 := by
  have positive : ∀ d : Decimal, (d.denominator : ℚ) ≠ 0 :=
    fun d => Nat.cast_ne_zero.mpr (Nat.ne_of_gt d.denominator_pos)
  rw [magnitude_eq_div, magnitude_eq_div, div_eq_div_iff (positive d) (positive e)] at same
  have crossed : d.numerator * e.denominator = e.numerator * d.denominator := by exact_mod_cast same
  have rounded : roundUnits (d.numerator * one) d.denominator =
      roundUnits (e.numerator * one) e.denominator := by
    apply roundUnits_congr d.denominator_pos e.denominator_pos
    rw [Nat.mul_right_comm, crossed, Nat.mul_right_comm]
  simp only [toBinary64_eq_ofUnits, ofUnits, signs, rounded]

theorem toBinary64_signed {d : Decimal} {x y : Finite64} (read : d.toBinary64 = .finite x)
    (units : x.units = y.units) :
    ({ d with negative := y.negative } : Decimal).toBinary64 = .finite y := by
  rw [toBinary64_eq_ofUnits] at read ⊢
  exact ofUnits_of_representable y.negative y.representable ((units_of_ofUnits read).trans units)

end Decimal

namespace Finite64

open Binary64

theorem readsBack_iff {units : Nat} {d : Decimal} (unsigned : d.negative = false) :
    readsBack units d = true ↔ ∃ x, d.toBinary64 = .finite x ∧ x.units = units := by
  obtain ⟨negative, digits, exponent⟩ := d
  subst unsigned
  unfold readsBack
  split
  next x read => simp [read]
  next infinite =>
    constructor
    · intro absurd
      cases absurd
    · rintro ⟨x, read, _⟩
      exact (infinite x read).elim

theorem readsBack_exactDecimal {units : Nat} (representable : Representable units) :
    readsBack units (exactDecimal units) = true := by
  obtain ⟨places, placesEq, oneEq⟩ := exists_one_eq
  have exact : exactDecimal units = ⟨false, units * Nat.pow 5 places, -(places : Int)⟩ := by
    have exponent : (-1074 : Int) = -(places : Int) := by omega
    simp only [exactDecimal, exponent, placesEq]
  have rounded : roundUnits ((exactDecimal units).numerator * one)
      (exactDecimal units).denominator = units := by
    refine (roundUnits_congr (Decimal.denominator_pos _) Nat.one_pos ?_).trans
      (roundUnits_of_onGrid representable.1)
    have whole : (-(places : Int)).toNat = 0 := by omega
    simp only [exact, Decimal.numerator, Decimal.denominator, whole, oneEq, Nat.pow_eq,
      Nat.pow_zero, Nat.mul_one, neg_neg, Int.toNat_natCast, Nat.mul_assoc, ← Nat.mul_pow]
  apply (readsBack_iff rfl).mpr
  rw [Decimal.toBinary64_eq_ofUnits, ofUnits_of_representable _ representable rounded]
  exact ⟨_, rfl, rfl⟩

theorem shortest_negative (units : Nat) : (shortest units).negative = false := by
  unfold shortest
  dsimp only
  cases found : (List.range 17).findSome? fun places : Nat =>
      candidate? units (leadingExponent units - places) with
  | none => rfl
  | some d =>
      obtain ⟨places, _, candidate⟩ := List.exists_of_findSome?_eq_some found
      obtain ⟨digits, _, rfl⟩ := List.mem_map.mp (List.mem_of_find?_eq_some candidate)
      rfl

theorem readsBack_shortest {units : Nat} (representable : Representable units) :
    readsBack units (shortest units) = true := by
  unfold shortest
  dsimp only
  cases found : (List.range 17).findSome? fun places : Nat =>
      candidate? units (leadingExponent units - places) with
  | none => exact readsBack_exactDecimal representable
  | some d =>
      obtain ⟨places, _, candidate⟩ := List.exists_of_findSome?_eq_some found
      exact List.find?_some candidate

theorem toBinary64_shortest (x : Finite64) :
    ({ shortest x.units with negative := x.negative } : Decimal).toBinary64 = .finite x := by
  obtain ⟨y, read, units⟩ :=
    (readsBack_iff (shortest_negative x.units)).mp (readsBack_shortest x.representable)
  exact Decimal.toBinary64_signed read units

end Finite64

end FlowLogic
