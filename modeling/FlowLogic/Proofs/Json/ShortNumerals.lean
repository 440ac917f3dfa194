import FlowLogic.Json.Relaxed
import FlowLogic.Proofs.Number.Integers

/-!
Numerals that a document reader takes exactly.  If the significand has 53 binary digits at most and
the power of ten is a float itself, scaling rounds only once.  So the result is the nearest float,
which the reader of handwritten documents gives for every numeral.
-/

namespace FlowLogic

namespace Binary64

/-- The float is the whole number. -/
def Is (x : Binary64) (whole : Nat) : Prop :=
  ∃ value : Finite64, x = .finite value ∧ value.negative = false ∧ value.units = whole * one

variable {x y : Binary64} {m n : Nat}

theorem ofUnits_signed (negative : Bool) (num den : Nat) :
    (∃ value : Finite64, ofUnits false num den = .finite value ∧
        ofUnits negative num den = .finite { value with negative := negative }) ∨
      (ofUnits false num den = .infinite false ∧ ofUnits negative num den = .infinite negative) := by
  by_cases finite : roundUnits num den < limit
  · exact .inl ⟨_, dif_pos finite, dif_pos finite⟩
  · exact .inr ⟨dif_neg finite, dif_neg finite⟩

theorem is_of_representable {whole : Nat} (representable : Representable (whole * one)) :
    (ofInt whole).Is whole := by
  have rounded : roundUnits (whole * one) 1 = whole * one := roundUnits_of_onGrid representable.1
  refine ⟨⟨false, whole * one, representable⟩, ?_, rfl, rfl⟩
  have unsigned : decide ((whole : Int) < 0) = false := by simp
  rw [ofInt, unsigned, Int.natAbs_natCast]
  exact ofUnits_of_representable false representable rounded

theorem is_ofInt {whole : Nat} (small : whole ≤ 9007199254740992) : (ofInt whole).Is whole := by
  apply is_of_representable
  rw [Representable, ← roundUnits_of_small small, ← roundUnits_mul_one]
  obtain ⟨value, finite⟩ : ∃ value, ofInt whole = .finite value := exists_ofInt_finite (by omega)
  have units := units_of_ofUnits finite
  rw [Int.natAbs_natCast] at units
  exact units ▸ value.representable

theorem Is.mul (isM : x.Is m) (isN : y.Is n) : x * y = ofUnits false (m * n * one) 1 := by
  obtain ⟨value, rfl, unsigned, units⟩ := isM
  obtain ⟨other, rfl, unsignedOther, unitsOther⟩ := isN
  have rounded : roundUnits (value.units * other.units) one = roundUnits (m * n * one) 1 := by
    apply roundUnits_congr one_pos Nat.one_pos
    rw [units, unitsOther]
    ring
  change Binary64.mul _ _ = _
  simp only [Binary64.mul, unsigned, unsignedOther, ofUnits, rounded, bne_self_eq_false]

theorem Is.div (isM : x.Is m) (isN : y.Is n) (positive : 0 < n) :
    x / y = ofUnits false (m * one) n := by
  obtain ⟨value, rfl, unsigned, units⟩ := isM
  obtain ⟨other, rfl, unsignedOther, unitsOther⟩ := isN
  have filled : other.isZero = false := by
    rw [Finite64.isZero, unitsOther, beq_eq_false_iff_ne]
    exact (Nat.mul_pos positive one_pos).ne'
  have rounded : roundUnits (value.units * one) other.units = roundUnits (m * one) n := by
    rw [units, unitsOther, Nat.mul_comm, Nat.mul_comm n]
    exact roundUnits_scale one_pos _ _
  change Binary64.div _ _ = _
  simp only [Binary64.div, filled, unsigned, unsignedOther, ofUnits, rounded, bne_self_eq_false,
    Bool.false_eq_true, if_false]

theorem Is.eq_zero (isM : (zero false).Is m) : m = 0 := by
  obtain ⟨value, zero, _, units⟩ := isM
  have none : roundUnits 0 1 = value.units := units_of_ofUnits zero
  rw [roundUnits_of_tiny (by decide)] at none
  exact (Nat.mul_eq_zero.mp (none.trans units).symm).resolve_right one_pos.ne'

end Binary64

namespace Json.Reader

open Binary64 Decimal

variable {value : Binary64} {whole places : Nat}

theorem is_powerOfTen (few : places ≤ 22) : (powerOfTen places).Is (Nat.pow 10 places) := by
  have representable : ∀ places < 23, Representable (Nat.pow 10 places * one) := by decide +kernel
  exact is_of_representable (representable places (by omega))

theorem raised_of_is (is : value.Is whole) (few : places ≤ 22) :
    raised value places = ofUnits false (whole * Nat.pow 10 places * one) 1 := by
  unfold raised
  split
  next empty =>
    rw [empty] at is ⊢
    rw [is.eq_zero, Nat.zero_mul, Nat.zero_mul, zero]
  next =>
    rw [if_pos (by unfold greatestPower; omega)]
    exact is.mul (is_powerOfTen few)

theorem lowered_of_is (is : value.Is whole) (few : places ≤ 22) :
    lowered value places = ofUnits false (whole * one) (Nat.pow 10 places) := by
  rw [lowered, if_pos (by unfold greatestPower; omega)]
  exact is.div (is_powerOfTen few) (Nat.pow_pos (by decide))

theorem lt_of_room {front places rest bound : Nat} (room : front * 10 ^ places + rest < bound) :
    front < bound :=
  calc front ≤ front * 10 ^ places := Nat.le_mul_of_pos_right _ (Nat.pow_pos (by decide))
    _ ≤ front * 10 ^ places + rest := Nat.le_add_right _ _
    _ < bound := room

theorem appendDigits_of_room {significand : Nat} {digits : List Char}
    (room : significand * 10 ^ digits.length + digitsValue digits < 18446744073709551616) :
    appendDigits significand digits =
      (significand * 10 ^ digits.length + digitsValue digits, []) := by
  induction digits generalizing significand with
  | nil => simp [appendDigits, digitsValue_eq_inBase, inBase]
  | cons c rest ih =>
      have first : digitsValue [c] = digitValue c := rfl
      have value : significand * 10 ^ (c :: rest).length + digitsValue (c :: rest) =
          (significand * 10 + digitValue c) * 10 ^ rest.length + digitsValue rest := by
        rw [← List.singleton_append, digitsValue_append, first, List.length_append,
          List.length_singleton, Nat.pow_add]
        ring
      rw [value] at room ⊢
      rw [appendDigits, if_pos (lt_of_room room), ih room]

theorem shortened_of_room {n : Numeral} (room : n.decimal.digits < 18446744073709551616) :
    shortened n = n.decimal := by
  have digits : n.decimal.digits =
      digitsValue n.whole * 10 ^ (n.fraction.getD []).length +
        digitsValue (n.fraction.getD []) := digitsValue_append _ _
  rw [digits] at room
  have fits : 0 * 10 ^ n.whole.length + digitsValue n.whole < 18446744073709551616 := by
    rw [Nat.zero_mul, Nat.zero_add]
    exact lt_of_room room
  have wholeRead : appendDigits 0 n.whole = (digitsValue n.whole, []) := by
    rw [appendDigits_of_room fits, Nat.zero_mul, Nat.zero_add]
  simp only [shortened, wholeRead, appendDigits_of_room room, List.length_nil, Nat.cast_zero,
    add_zero, ← digits]
  rfl

/-- A numeral with a significand of at most 53 binary digits and at most 22 places of scaling is read
as the nearest float. -/
theorem float?_eq_nearest {n : Numeral} (short : n.decimal.digits ≤ 9007199254740992)
    (near : n.decimal.exponent.natAbs ≤ 22) : float? n = Relaxed.float? n := by
  have taken : shortened n = n.decimal := shortened_of_room (by omega)
  have rounded := is_ofInt short
  have scaled :
      (if 0 ≤ n.decimal.exponent then
          raised (.ofInt n.decimal.digits) n.decimal.exponent.toNat
        else lowered (.ofInt n.decimal.digits) (-n.decimal.exponent).toNat) =
        ofUnits false (n.decimal.numerator * one) n.decimal.denominator := by
    unfold numerator denominator
    split
    next up =>
      have whole : (-n.decimal.exponent).toNat = 0 := by omega
      rw [raised_of_is rounded (by omega), whole, Nat.pow_eq, Nat.pow_eq, Nat.pow_zero]
    next down =>
      have none : n.decimal.exponent.toNat = 0 := by omega
      rw [lowered_of_is rounded (by omega), none, Nat.pow_eq, Nat.pow_eq, Nat.pow_zero, Nat.mul_one]
  rw [float?, Relaxed.float?, toBinary64_eq_ofUnits, taken, scaled]
  obtain ⟨value, finite, signed⟩ | ⟨infinite, signed⟩ := ofUnits_signed n.decimal.negative
    (n.decimal.numerator * one) n.decimal.denominator
  · rw [finite, signed]
  · rw [infinite, signed]

/-- With one place more the power of ten is no float, and the result can miss the nearest one. -/
example :
    (float? ⟨false, ['3'], none, some (false, ['2', '3'])⟩).map Json.compact =
        some "2.9999999999999997e+23" ∧
      (Relaxed.float? ⟨false, ['3'], none, some (false, ['2', '3'])⟩).map Json.compact =
        some "3e+23" := by
  decide +kernel

end Json.Reader

end FlowLogic
