import FlowLogic.Proofs.Json.Text

/-!
The numbers that numerals are read as.  A numeral of a finite number is read as a number that its own
text means again; one whose magnitude is too large for that is read as `null`.
-/

namespace FlowLogic

namespace Binary64

theorem ofUnits_cases (negative : Bool) (num den : Nat) :
    (∃ x, ofUnits negative num den = .finite x) ∨
      ofUnits negative num den = .infinite negative := by
  unfold ofUnits
  split
  next => exact .inl ⟨_, rfl⟩
  next => exact .inr rfl

theorem roundUnits_le (units : Nat) : roundUnits units 1 ≤ 2 * units := by
  by_cases none : units = 0
  · subst none
    exact Nat.le_of_eq (roundUnits_of_tiny (by decide))
  · have step : spacing units ≤ units :=
      (Nat.pow_le_pow_right Nat.two_pos (Nat.sub_le _ _)).trans (Nat.log2_self_le none)
    simp only [roundUnits, Nat.div_one, Nat.one_mul]
    calc roundHalfEven units (spacing units) * spacing units
        ≤ (units / spacing units + 1) * spacing units :=
          Nat.mul_le_mul_right _ (roundHalfEven_le _ _)
      _ = units / spacing units * spacing units + spacing units := Nat.succ_mul _ _
      _ ≤ units + units := Nat.add_le_add (Nat.div_mul_le_self _ _) step
      _ = 2 * units := (Nat.two_mul units).symm

end Binary64

namespace Decimal

open Binary64

theorem toBinary64_cases (d : Decimal) :
    (∃ x, d.toBinary64 = .finite x) ∨ d.toBinary64 = .infinite d.negative := by
  rw [toBinary64_eq_ofUnits]
  exact ofUnits_cases d.negative _ _

theorem exists_finite_of_digits {d : Decimal} (whole : d.exponent = 0)
    (small : d.digits ≤ 18446744073709551616) : ∃ x, d.toBinary64 = .finite x := by
  obtain ⟨places, placesEq, oneEq⟩ := exists_one_eq
  obtain ⟨top, topEq, limitEq⟩ := exists_limit_eq
  have bound : d.digits ≤ 2 ^ 64 := small
  have below : roundUnits (d.numerator * one) d.denominator < limit := by
    have numerator : d.numerator = d.digits := by simp [Decimal.numerator, whole]
    have denominator : d.denominator = 1 := by simp [Decimal.denominator, whole]
    rw [numerator, denominator, limitEq, oneEq, Nat.pow_eq, Nat.pow_eq]
    calc roundUnits (d.digits * 2 ^ places) 1
        ≤ 2 * (d.digits * 2 ^ places) := roundUnits_le _
      _ ≤ 2 * (2 ^ 64 * 2 ^ places) :=
          Nat.mul_le_mul_left _ (Nat.mul_le_mul_right _ bound)
      _ = 2 ^ (64 + places + 1) := by rw [← Nat.pow_add, Nat.pow_succ _ (64 + places), Nat.mul_comm]
      _ < 2 ^ top := Nat.pow_lt_pow_right (by decide) (by omega)
  rw [toBinary64_eq_ofUnits, ofUnits, dif_pos below]
  exact ⟨_, rfl⟩

end Decimal

namespace Numeral

variable {n : Numeral}

/-- A numeral is too large: its value has no nearest finite number. -/
def TooLarge (n : Numeral) : Prop := ∃ negative, n.toBinary64? = some (.infinite negative)

theorem not_tooLarge_of_toInt? {value : Int} (whole : n.toInt? = some value)
    (small : value.natAbs ≤ 18446744073709551616) : ¬ n.TooLarge := by
  rintro ⟨negative, large⟩
  obtain ⟨signed, digits, fraction, power⟩ := n
  match fraction, power with
  | none, none =>
      simp only [toInt?, Option.ite_none_right_eq_some, Option.some.injEq] at whole
      obtain ⟨plain, rfl⟩ := whole
      have size : Decimal.digitsValue digits ≤ 18446744073709551616 := by
        split at small <;> omega
      obtain ⟨x, finite⟩ := Decimal.exists_finite_of_digits
        (d := decimal ⟨signed, digits, none, none⟩) rfl (by simpa [decimal] using size)
      simp [toBinary64?, finite] at large
  | some _, _ => cases whole
  | none, some _ => cases whole

end Numeral

namespace Finite64

theorem natAbs_truncate (x : Finite64) : x.truncate.natAbs = x.units / Binary64.one := by
  unfold truncate
  split <;> simp only [Int.natAbs_neg, Int.natAbs_natCast]

theorem collapsed?_bound {x : Finite64} {value : Int} (whole : x.collapsed? = some value) :
    value.natAbs < collapseLimit := by
  simp only [collapsed?, Option.ite_none_right_eq_some, Option.some.injEq, Bool.and_eq_true,
    decide_eq_true_eq] at whole
  obtain ⟨⟨_, small⟩, rfl⟩ := whole
  rw [natAbs_truncate]
  exact Nat.div_lt_of_lt_mul (by rwa [Nat.mul_comm])

end Finite64

namespace Json

theorem ofInt?_exact {value : Int} (low : -9223372036854775808 ≤ value)
    (high : value < 9223372036854775808) : ∃ n, ofInt? value = some (.num n) ∧ n.Exact := by
  have range : -9223372036854775808 ≤ value ∧ value < 18446744073709551616 := ⟨low, by omega⟩
  exact ⟨.int value range, dif_pos range, high⟩

theorem ofNumber_exact (x : Finite64) : ∃ n, ofNumber (.finite x) = .num n ∧ n.Exact := by
  cases whole : x.collapsed? with
  | none => exact ⟨.float x, by simp [ofNumber, whole], whole⟩
  | some value =>
      have small : value.natAbs < 9000000000000000 := Finite64.collapsed?_bound whole
      obtain ⟨n, number, exact⟩ := @ofInt?_exact value (by omega) (by omega)
      exact ⟨n, by simp [ofNumber, whole, number], exact⟩

theorem readNumber?_cases {text : String} {value : Json} (read : readNumber? text = some value) :
    ∃ numeral, Numeral.read? text.toList = some numeral ∧
      ((∃ n, value = .num n ∧ n.Exact) ∨ (value = .null ∧ numeral.TooLarge)) := by
  obtain ⟨numeral, found, means⟩ := Option.bind_eq_some_iff.mp read
  refine ⟨numeral, found, ?_⟩
  have rounded : numeral.toBinary64?.map ofNumber = some value →
      (∃ n, value = .num n ∧ n.Exact) ∨ (value = .null ∧ numeral.TooLarge) := by
    intro mapped
    obtain ⟨nearest, valued, rfl⟩ := Option.map_eq_some_iff.mp mapped
    have same : numeral.decimal.toBinary64 = nearest := by
      unfold Numeral.toBinary64? at valued
      split at valued
      next => exact Option.some.inj valued
      next => cases valued
    rcases numeral.decimal.toBinary64_cases with ⟨x, finite⟩ | infinite
    · rw [← same, finite]
      exact .inl (ofNumber_exact x)
    · refine .inr ⟨by rw [← same, infinite]; rfl, numeral.decimal.negative, ?_⟩
      rw [valued, ← same, infinite]
  split at means
  next integer _ =>
    split at means
    next range =>
      obtain ⟨n, number, exact⟩ := ofInt?_exact range.1 range.2
      exact .inl ⟨n, Option.some.inj (means.symm.trans number), exact⟩
    next => exact rounded means
  next => exact rounded means

variable {text : String} {numeral : Numeral}

theorem readNumber?_of_no_value
    (valueless : ∀ numeral, Numeral.read? text.toList = some numeral → numeral.hasValue = false) :
    readNumber? text = none := by
  cases read : Numeral.read? text.toList with
  | none => simp [readNumber?, read]
  | some numeral =>
      have noValue := valueless numeral read
      have noInteger : numeral.toInt? = none := by
        unfold Numeral.toInt?
        split
        next => simp [noValue]
        next => rfl
      simp [readNumber?, read, noInteger, Numeral.toBinary64?, noValue]

theorem readNumber?_of_integer {value : Int} (read : Numeral.read? text.toList = some numeral)
    (whole : numeral.toInt? = some value) (low : -9223372036854775808 ≤ value)
    (high : value < 9223372036854775808) : readNumber? text = ofInt? value := by
  simp [readNumber?, read, whole, low, high]

theorem readNumber?_of_outside (read : Numeral.read? text.toList = some numeral)
    (outside : ∀ value, numeral.toInt? = some value →
      ¬ (-9223372036854775808 ≤ value ∧ value < 9223372036854775808)) :
    readNumber? text = numeral.toBinary64?.map ofNumber := by
  simp only [readNumber?, read, Option.bind_some]
  split
  next value whole => rw [if_neg (outside value whole)]
  next => rfl

theorem readNumber?_of_tooLarge (read : Numeral.read? text.toList = some numeral)
    (large : numeral.TooLarge) : readNumber? text = some .null := by
  have outside : ∀ value, numeral.toInt? = some value →
      ¬ (-9223372036854775808 ≤ value ∧ value < 9223372036854775808) :=
    fun value whole range => Numeral.not_tooLarge_of_toInt? whole (by omega) large
  obtain ⟨negative, infinite⟩ := large
  rw [readNumber?_of_outside read outside, infinite]
  rfl

theorem asChars_ofNumber (x : Finite64) :
    (ofNumber (.finite x)).asChars = numberChars (.float x) := by
  cases whole : x.collapsed? with
  | none => simp [ofNumber, whole, asChars]
  | some value =>
      have small : value.natAbs < 9000000000000000 := Finite64.collapsed?_bound whole
      have range : -9223372036854775808 ≤ value ∧ value < 18446744073709551616 := by omega
      simp [ofNumber, whole, ofInt?, range, asChars, numberChars]

theorem numberChars_of_exact {n : JsonNumber} (exact : n.Exact) : numberChars n = n.chars := by
  cases n with
  | int => rfl
  | float x =>
      have whole : x.collapsed? = none := exact
      simp [numberChars, whole, JsonNumber.chars]

end Json

end FlowLogic
