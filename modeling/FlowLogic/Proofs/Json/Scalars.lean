import FlowLogic.Proofs.Json.Equality

/-!
Numbers as texts.  The text of a number is read as an equal number, and both are true or false
alike: a number is false exactly when it equals zero, and its text then is that of zero.
-/

namespace FlowLogic

namespace Binary64

theorem roundUnits_pos {units : Nat} (positive : 0 < units) : 0 < roundUnits units 1 := by
  have step : 0 < spacing units := Nat.pow_pos Nat.two_pos
  have small : spacing units ≤ units :=
    (Nat.pow_le_pow_right Nat.two_pos (Nat.sub_le _ _)).trans (Nat.log2_self_le positive.ne')
  simp only [roundUnits, Nat.div_one, Nat.one_mul]
  exact Nat.mul_pos ((Nat.div_pos small step).trans_le (le_roundHalfEven _ _)) step

theorem one_pos : 0 < one := by
  obtain ⟨places, _, same⟩ := exists_one_eq
  rw [same]
  exact Nat.pow_pos Nat.two_pos

theorem zero_eq : ∃ x : Finite64, x.scaled = 0 ∧ zero false = .finite x := by
  have representable : Representable 0 := ⟨Nat.dvd_zero _, limit_pos⟩
  exact ⟨⟨false, 0, representable⟩, rfl,
    ofUnits_of_representable false representable (roundUnits_of_tiny (by decide))⟩

theorem numEq_zero_iff {x : Binary64} :
    x.numEq (zero false) = true ↔ ∃ a : Finite64, x = .finite a ∧ a.units = 0 := by
  obtain ⟨z, none, zeroEq⟩ := zero_eq
  have scaled : ∀ a : Finite64, a.scaled = 0 ↔ a.units = 0 := by
    intro a
    unfold Finite64.scaled
    split <;> omega
  rw [zeroEq, numEq_iff]
  constructor
  · rintro (⟨_, _, infinite⟩ | ⟨a, b, rfl, same, equal⟩)
    · cases infinite
    · cases same
      exact ⟨a, rfl, (scaled a).mp (equal.trans none)⟩
  · rintro ⟨a, rfl, empty⟩
    exact .inr ⟨a, z, rfl, rfl, ((scaled a).mpr empty).trans none.symm⟩

theorem numEq_ofInt_zero_iff {value : Int} :
    (ofInt value).numEq (zero false) = true ↔ value = 0 := by
  rw [numEq_zero_iff]
  constructor
  · rintro ⟨a, rounded, empty⟩
    have vanishes := (units_of_ofUnits rounded).trans empty
    by_contra nonzero
    have positive : 0 < value.natAbs * one := Nat.mul_pos (Int.natAbs_pos.mpr nonzero) one_pos
    exact (roundUnits_pos positive).ne' vanishes
  · rintro rfl
    rw [← numEq_zero_iff, ofInt, Int.natAbs_zero, Nat.zero_mul]
    exact numEq_self (ofUnits_ne_nan _ _ _)

end Binary64

theorem Decimal.toBinary64_ofInt (value : Int) :
    (⟨decide (value < 0), value.natAbs, 0⟩ : Decimal).toBinary64 = .ofInt value := by
  rw [toBinary64_eq_ofUnits]
  simp [Binary64.ofInt, numerator, denominator]

theorem Binary64.exists_ofInt_finite {value : Int} (small : value.natAbs ≤ 18446744073709551616) :
    ∃ x, Binary64.ofInt value = .finite x := by
  rw [← Decimal.toBinary64_ofInt]
  exact Decimal.exists_finite_of_digits rfl small

namespace Finite64

open Binary64

theorem collapsed?_of_empty {x : Finite64} (empty : x.units = 0) : x.collapsed?.isSome := by
  have bound : 0 < collapseLimit := by decide
  have small : x.units < collapseLimit * one := by
    rw [empty]
    exact Nat.mul_pos bound Binary64.one_pos
  have whole : x.isWhole = true := by
    rw [isWhole, empty, Nat.zero_mod]
    rfl
  rw [collapsed?, whole, Bool.true_and, if_pos (decide_eq_true small)]
  rfl

theorem numEq_of_collapsed? {x : Finite64} {value : Int} (whole : x.collapsed? = some value) :
    (finite x).numEq (ofInt value) = true := by
  simp only [collapsed?, Option.ite_none_right_eq_some, Option.some.injEq, Bool.and_eq_true,
    isWhole, beq_iff_eq] at whole
  obtain ⟨⟨divides, _⟩, rfl⟩ := whole
  have product : x.units / one * one = x.units :=
    Nat.div_mul_cancel (Nat.dvd_of_mod_eq_zero divides)
  have nearest := ofUnits_of_representable (decide (x.truncate < 0)) x.representable
    (roundUnits_of_onGrid x.representable.1)
  rw [ofInt, natAbs_truncate, product, nearest, numEq_iff]
  refine .inr ⟨_, _, rfl, rfl, ?_⟩
  have sign : x.units ≠ 0 → (x.truncate < 0 ↔ x.negative = true) := by
    intro filled
    have positive : x.units / one ≠ 0 := by
      intro empty
      rw [empty, Nat.zero_mul] at product
      exact filled product.symm
    have above : (0 : Int) < ↑(x.units / one) := Int.natCast_pos.mpr (Nat.pos_of_ne_zero positive)
    unfold truncate
    split
    next signed => simpa only [signed, iff_true, Int.neg_neg_iff_pos] using above
    next unsigned => simpa only [unsigned, iff_false, not_lt, Bool.false_eq_true] using above.le
  unfold scaled
  by_cases empty : x.units = 0
  · simp [empty]
  · simp [sign, empty]

end Finite64

namespace Json

theorem isTrue_num (n : JsonNumber) :
    (Json.num n).isTrue = !n.toBinary64.numEq (Binary64.zero false) := by
  rw [← Bool.not_eq_not, Bool.not_not, Bool.eq_iff_iff]
  cases n with
  | int value => simp [isTrue, JsonNumber.toBinary64, Binary64.numEq_ofInt_zero_iff]
  | float x => simp [isTrue, JsonNumber.toBinary64, Binary64.numEq_zero_iff, Finite64.isZero]

theorem isTrue_eq_of_strictEq {a b : Json} (equal : strictEq a b = true) : a.isTrue = b.isTrue := by
  cases a with
  | null =>
      obtain rfl := strictEq_null.mp equal
      rfl
  | bool truth =>
      obtain rfl := strictEq_bool.mp equal
      rfl
  | num n =>
      obtain ⟨m, rfl, same⟩ := strictEq_num.mp equal
      rw [isTrue_num, isTrue_num, Bool.not_inj_iff, Bool.eq_iff_iff]
      exact ⟨Binary64.numEq_trans (by rwa [Binary64.numEq_comm]), Binary64.numEq_trans same⟩
  | str text =>
      obtain rfl := strictEq_str.mp equal
      rfl
  | arr items =>
      obtain ⟨others, rfl, same⟩ := strictEq_arr.mp equal
      cases items <;> cases others <;> first | rfl | cases same
  | obj fields =>
      obtain ⟨others, rfl, same⟩ := strictEq_obj.mp equal
      cases fields <;> cases others <;> first | rfl | cases same

theorem numberChars_ofNumber {x : Finite64} {m : JsonNumber}
    (taken : ofNumber (.finite x) = .num m) : numberChars (.float x) = numberChars m := by
  rw [← asChars_ofNumber, taken, asChars]

theorem numEq_ofNumber {x : Finite64} {m : JsonNumber} (taken : ofNumber (.finite x) = .num m) :
    (Binary64.finite x).numEq m.toBinary64 = true := by
  rw [ofNumber] at taken
  split at taken
  next value whole =>
    rw [ofInt?] at taken
    split at taken
    · cases taken
      exact Finite64.numEq_of_collapsed? whole
    · cases taken
  next =>
    cases taken
    exact Binary64.numEq_self (by simp)

end Json

theorem Numeral.toBinary64?_ofInt (value : Int) :
    (ofInt value).toBinary64? = some (.ofInt value) := by
  have whole : (ofInt value).decimal = ⟨decide (value < 0), value.natAbs, 0⟩ := by
    simp [decimal, ofInt]
  rw [toBinary64?, if_pos (ofInt_plain value).hasValue, whole, Decimal.toBinary64_ofInt]

theorem Numeral.isBlank_of_isPart {c : Char} (part : isPart c = true) : Text.isBlank c = false := by
  simp only [isPart, Bool.or_eq_true, beq_iff_eq] at part
  rcases part with (((digit | rfl) | rfl) | rfl) | rfl
  · simp only [Text.isAsciiDigit, Bool.and_eq_true, decide_eq_true_eq] at digit
    have low : 48 ≤ c.toNat := digit.1
    have high : c.toNat ≤ 57 := digit.2
    simp only [Text.isBlank, Bool.or_eq_false_iff, Bool.and_eq_false_iff, decide_eq_false_iff_not,
      beq_eq_false_iff_ne]
    omega
  all_goals rfl

namespace JsonNumber

theorem exists_chars_eq (n : JsonNumber) : ∃ m : JsonNumber, Json.numberChars n = m.chars := by
  cases n with
  | int value range => exact ⟨.int value range, rfl⟩
  | float x =>
      obtain ⟨m, taken, exact⟩ := Json.ofNumber_exact x
      exact ⟨m, (Json.numberChars_ofNumber taken).trans (Json.numberChars_of_exact exact)⟩

theorem isBlankText_asText (n : JsonNumber) : Text.isBlankText (Json.num n).asText = false := by
  obtain ⟨m, printed⟩ := n.exists_chars_eq
  rw [Text.isBlankText, Json.asText, String.toList_ofList, Json.asChars, printed]
  cases text : m.chars with
  | nil => exact absurd text m.chars_ne_nil
  | cons c rest =>
      have part := m.isPart_of_mem c (text ▸ List.mem_cons_self)
      rw [List.all_cons, Numeral.isBlank_of_isPart part, Bool.false_and]

theorem exists_readNumber? (n : JsonNumber) :
    ∃ m : JsonNumber, Json.readNumber? (String.ofList (Json.numberChars n)) = some (.num m) ∧
      m.Exact ∧ Json.strictEq (.num n) (.num m) = true := by
  cases n with
  | float x =>
      obtain ⟨m, taken, exact⟩ := Json.ofNumber_exact x
      refine ⟨m, ?_, exact, Json.numEq_ofNumber taken⟩
      rw [Json.numberChars_ofNumber taken, exact.readNumber?]
  | int value range =>
      by_cases inside : value < 9223372036854775808
      · exact ⟨.int value range, Exact.readNumber? inside, inside, Json.strictEq_self _⟩
      · have read : Numeral.read? (String.ofList (intChars value)).toList =
            some (Numeral.ofInt value) := by
          rw [String.toList_ofList, ← Numeral.chars_ofInt, (Numeral.ofInt_plain value).read?_chars]
        have outside : ∀ other, (Numeral.ofInt value).toInt? = some other →
            ¬ (-9223372036854775808 ≤ other ∧ other < 9223372036854775808) := by
          intro other same
          rw [Numeral.toInt?_ofInt] at same
          cases same
          exact fun inRange => inside inRange.2
        have small : value.natAbs ≤ 18446744073709551616 := by omega
        obtain ⟨x, finite⟩ := Binary64.exists_ofInt_finite small
        obtain ⟨m, taken, exact⟩ := Json.ofNumber_exact x
        have means := Json.readNumber?_of_outside read outside
        rw [Numeral.toBinary64?_ofInt, finite, Option.map_some, taken] at means
        refine ⟨m, means, exact, ?_⟩
        rw [Json.strictEq, toBinary64, finite]
        exact Json.numEq_ofNumber taken

theorem Exact.isTrue_asText {m : JsonNumber} (exact : m.Exact) :
    (Json.str (Json.num m).asText).isTrue = (Json.num m).isTrue := by
  have read : Json.readNumber? (Json.num m).asText = some (.num m) := exact.readNumber?
  have filled : (Json.num m).asText ≠ "" := by
    intro empty
    have unread : Json.readNumber? "" = none := rfl
    rw [empty, unread] at read
    cases read
  have zero : (Json.num m).asText = "0" ↔ (Json.num m).isTrue = false := by
    constructor
    · intro same
      have exactZero : (int 0 (by decide)).Exact := by simp [Exact]
      have number : Json.readNumber? "0" = some (.num (.int 0 (by decide))) :=
        exactZero.readNumber?
      rw [same, number] at read
      cases read
      rfl
    · intro untrue
      cases m with
      | int value =>
          obtain rfl : value = 0 := by simpa [Json.isTrue] using untrue
          rfl
      | float x =>
          have empty : x.units = 0 := by simpa [Json.isTrue, Finite64.isZero] using untrue
          have whole := Finite64.collapsed?_of_empty empty
          rw [show x.collapsed? = none from exact] at whole
          cases whole
  rw [Json.isTrue, bne_iff_ne.mpr filled, Bool.true_and]
  cases truth : (Json.num m).isTrue with
  | false =>
      rw [zero.mpr truth]
      rfl
  | true =>
      rw [bne_iff_ne]
      intro same
      rw [zero.mp same] at truth
      cases truth

end JsonNumber

end FlowLogic
