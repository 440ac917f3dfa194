import FlowLogic.Proofs.Json.Scalars

/-!
Integers as binary floating point numbers.  Those with at most 53 binary digits are themselves;
of the others 53 digits are kept, so that neighbours can become one number.  Rounding keeps the
order, and moves an integer by half the spacing of its neighbourhood at most.
-/

namespace FlowLogic.Binary64

theorem roundHalfEven_mul (quotient : Nat) {den : Nat} (positive : 0 < den) :
    roundHalfEven (quotient * den) den = quotient := by
  simp [roundHalfEven, positive]

theorem roundHalfEven_mono {num other : Nat} (le : num ≤ other) (den : Nat) :
    roundHalfEven num den ≤ roundHalfEven other den := by
  rcases Nat.lt_or_eq_of_le (Nat.div_le_div_right (c := den) le) with less | same
  · calc roundHalfEven num den
        ≤ num / den + 1 := roundHalfEven_le num den
      _ ≤ other / den := less
      _ ≤ roundHalfEven other den := le_roundHalfEven other den
  · have rests : num % den ≤ other % den := by
      have first := Nat.div_add_mod num den
      have second := Nat.div_add_mod other den
      rw [same] at first
      omega
    unfold roundHalfEven
    rw [same]
    dsimp only
    split_ifs <;> omega

theorem roundHalfEven_near (num : Nat) {den : Nat} (positive : 0 < den) :
    2 * (roundHalfEven num den * den) ≤ 2 * num + den ∧
      2 * num ≤ 2 * (roundHalfEven num den * den) + den := by
  have parts := Nat.div_add_mod num den
  have rest := Nat.mod_lt num positive
  have next : (num / den + 1) * den = den * (num / den) + den := by ring
  have same : num / den * den = den * (num / den) := Nat.mul_comm _ _
  unfold roundHalfEven
  dsimp only
  split_ifs <;> omega

theorem spacing_pos (units : Nat) : 0 < spacing units := Nat.pow_pos Nat.two_pos

theorem roundUnits_one (units : Nat) :
    roundUnits units 1 = roundHalfEven units (spacing units) * spacing units := by
  rw [roundUnits, Nat.div_one, Nat.one_mul]

theorem roundUnits_near (units : Nat) :
    2 * roundUnits units 1 ≤ 2 * units + spacing units ∧
      2 * units ≤ 2 * roundUnits units 1 + spacing units := by
  rw [roundUnits_one]
  exact roundHalfEven_near units (spacing_pos units)

theorem roundHalfEven_of_onGrid {units bound : Nat} (onGrid : spacing units ∣ bound) :
    roundHalfEven bound (spacing units) * spacing units = bound := by
  obtain ⟨quotient, rfl⟩ := onGrid
  rw [Nat.mul_comm (spacing units) quotient, roundHalfEven_mul quotient (spacing_pos units)]

theorem roundUnits_le_of_onGrid {units bound : Nat} (le : units ≤ bound)
    (onGrid : spacing units ∣ bound) : roundUnits units 1 ≤ bound := by
  calc roundUnits units 1
      = roundHalfEven units (spacing units) * spacing units := roundUnits_one units
    _ ≤ roundHalfEven bound (spacing units) * spacing units :=
        Nat.mul_le_mul_right _ (roundHalfEven_mono le _)
    _ = bound := roundHalfEven_of_onGrid onGrid

theorem le_roundUnits_of_onGrid {units bound : Nat} (le : bound ≤ units)
    (onGrid : spacing units ∣ bound) : bound ≤ roundUnits units 1 := by
  calc bound
      = roundHalfEven bound (spacing units) * spacing units := (roundHalfEven_of_onGrid onGrid).symm
    _ ≤ roundHalfEven units (spacing units) * spacing units :=
        Nat.mul_le_mul_right _ (roundHalfEven_mono le _)
    _ = roundUnits units 1 := (roundUnits_one units).symm

theorem roundUnits_mono {units others : Nat} (le : units ≤ others) :
    roundUnits units 1 ≤ roundUnits others 1 := by
  rcases Nat.eq_zero_or_pos units with rfl | positive
  · exact (roundUnits_of_tiny (by decide)).le.trans (Nat.zero_le _)
  have filled : others ≠ 0 := by omega
  have logs : units.log2 ≤ others.log2 :=
    (Nat.le_log2 filled).mpr ((Nat.log2_self_le positive.ne').trans le)
  rcases Nat.lt_or_eq_of_le logs with less | same
  · -- A power of two stands between them, on the grids of both.
    calc roundUnits units 1
        ≤ 2 ^ (units.log2 + 1) :=
          roundUnits_le_of_onGrid Nat.lt_log2_self.le (Nat.pow_dvd_pow 2 (by omega))
      _ ≤ 2 ^ others.log2 := Nat.pow_le_pow_right Nat.two_pos less
      _ ≤ roundUnits others 1 :=
          le_roundUnits_of_onGrid (Nat.log2_self_le filled) (Nat.pow_dvd_pow 2 (by omega))
  · rw [roundUnits_one, roundUnits_one, spacing, spacing, same]
    exact Nat.mul_le_mul_right _ (roundHalfEven_mono le _)

theorem roundUnits_nearest_of_dvd (units : Nat) {other : Nat} (onGrid : spacing units ∣ other) :
    ((roundUnits units 1 : Int) - units).natAbs ≤ ((other : Int) - units).natAbs := by
  have near := roundUnits_near units
  have rounded : spacing units ∣ roundUnits units 1 := by
    rw [roundUnits_one]
    exact Nat.dvd_mul_left _ _
  rcases lt_trichotomy other (roundUnits units 1) with below | rfl | above
  · have step := Nat.le_of_dvd (Nat.sub_pos_of_lt below) (Nat.dvd_sub rounded onGrid)
    omega
  · exact Nat.le_refl _
  · have step := Nat.le_of_dvd (Nat.sub_pos_of_lt above) (Nat.dvd_sub onGrid rounded)
    omega

/-- No magnitude on its own grid is nearer than the rounded one. -/
theorem roundUnits_nearest (units : Nat) {other : Nat} (onGrid : spacing other ∣ other) :
    ((roundUnits units 1 : Int) - units).natAbs ≤ ((other : Int) - units).natAbs := by
  rcases Nat.lt_or_ge other.log2 units.log2 with less | more
  · -- The power of two below the magnitude is nearer than anything under it.
    have filled : units ≠ 0 := by
      rintro rfl
      exact Nat.not_lt_zero _ less
    have below : other < 2 ^ units.log2 :=
      Nat.lt_log2_self.trans_le (Nat.pow_le_pow_right Nat.two_pos less)
    have low := Nat.log2_self_le filled
    have power : spacing units ∣ 2 ^ units.log2 := Nat.pow_dvd_pow 2 (Nat.sub_le _ _)
    have near := roundUnits_nearest_of_dvd units power
    omega
  · exact roundUnits_nearest_of_dvd units ((Nat.pow_dvd_pow 2 (by omega)).trans onGrid)

theorem roundUnits_of_small {units : Nat} (small : units ≤ 9007199254740992) :
    roundUnits units 1 = units := by
  apply roundUnits_of_onGrid
  have onGrid : spacing (units * Nat.pow 2 0) ∣ units * Nat.pow 2 0 := spacing_mul_dvd small
  rwa [Nat.pow_eq, Nat.pow_zero, Nat.mul_one] at onGrid

/-- Rounding to binary digits is the same in units and in whole numbers. -/
theorem roundUnits_mul_one (whole : Nat) :
    roundUnits (whole * one) 1 = roundUnits whole 1 * one := by
  obtain ⟨places, _, oneEq⟩ := exists_one_eq
  rcases le_or_gt whole 9007199254740992 with small | large
  · rw [roundUnits_of_small small, oneEq]
    exact roundUnits_of_onGrid (spacing_mul_dvd small)
  · have filled : whole ≠ 0 := by omega
    have long : 52 ≤ whole.log2 := (Nat.le_log2 filled).mpr (by omega)
    have logs : (whole * 2 ^ places).log2 = whole.log2 + places := by
      rw [Nat.log2_eq_iff (Nat.mul_ne_zero filled (Nat.two_pow_pos places).ne'), Nat.pow_add,
        Nat.add_right_comm, Nat.pow_add]
      exact ⟨Nat.mul_le_mul_right _ (Nat.log2_self_le filled),
        Nat.mul_lt_mul_of_pos_right Nat.lt_log2_self (Nat.two_pow_pos places)⟩
    have spaced : spacing (whole * one) = one * spacing whole := by
      simp only [oneEq, spacing, Nat.pow_eq, logs, ← Nat.pow_add]
      exact congrArg _ (by omega)
    rw [roundUnits_one, roundUnits_one, spaced, Nat.mul_comm whole,
      roundHalfEven_scale one_pos]
    ring

/-- The integer that the nearest binary floating point number of an integer is. -/
def nearestInt (value : Int) : Int := value.sign * roundUnits value.natAbs 1

theorem nearestInt_neg (value : Int) : nearestInt (-value) = -nearestInt value := by
  simp [nearestInt]

theorem nearestInt_natCast (whole : Nat) : nearestInt whole = roundUnits whole 1 := by
  rcases Nat.eq_zero_or_pos whole with rfl | positive
  · simp [nearestInt, roundUnits_of_small]
  · simp [nearestInt, Int.sign_natCast_of_ne_zero positive.ne']

def OnGrid (value : Int) : Prop := spacing value.natAbs ∣ value.natAbs

theorem nearestInt_onGrid (value : Int) : OnGrid (nearestInt value) := by
  obtain ⟨whole, rfl | rfl⟩ := value.eq_nat_or_neg
  all_goals
    simp only [OnGrid, nearestInt_neg, nearestInt_natCast, Int.natAbs_neg, Int.natAbs_natCast]
    exact roundUnits_onGrid whole 1

theorem nearestInt_nearest (value : Int) {other : Int} (onGrid : OnGrid other) :
    (nearestInt value - value).natAbs ≤ (other - value).natAbs := by
  obtain ⟨whole, rfl | rfl⟩ := value.eq_nat_or_neg
  all_goals
    have near := roundUnits_nearest whole onGrid
    simp only [nearestInt_neg, nearestInt_natCast]
    omega

theorem nearestInt_of_small {value : Int} (small : value.natAbs ≤ 9007199254740992) :
    nearestInt value = value := by
  rw [nearestInt, roundUnits_of_small small, Int.sign_mul_natAbs]

theorem nearestInt_mono {value other : Int} (le : value ≤ other) :
    nearestInt value ≤ nearestInt other := by
  obtain ⟨m, rfl | rfl⟩ := value.eq_nat_or_neg
  all_goals obtain ⟨n, rfl | rfl⟩ := other.eq_nat_or_neg
  all_goals simp only [nearestInt_neg, nearestInt_natCast]
  · exact Int.ofNat_le.mpr (roundUnits_mono (Int.ofNat_le.mp le))
  · obtain rfl : m = 0 := by omega
    obtain rfl : n = 0 := by omega
    simp [roundUnits_of_small]
  · omega
  · have magnitudes : roundUnits n 1 ≤ roundUnits m 1 := roundUnits_mono (by omega)
    omega

theorem nearestInt_near (value : Int) :
    2 * (nearestInt value - value).natAbs ≤ spacing value.natAbs := by
  obtain ⟨whole, rfl | rfl⟩ := value.eq_nat_or_neg
  all_goals
    have near := roundUnits_near whole
    simp only [nearestInt_neg, nearestInt_natCast, Int.natAbs_neg, Int.natAbs_natCast]
    omega

theorem nearestInt_lt_of_small {value other : Int} (less : value < other)
    (small : value.natAbs < 9007199254740992 ∨ other.natAbs < 9007199254740992) :
    nearestInt value < nearestInt other := by
  rcases small with small | small
  · calc nearestInt value
        = value := nearestInt_of_small (by omega)
      _ < value + 1 := Int.lt_succ value
      _ = nearestInt (value + 1) := (nearestInt_of_small (by omega)).symm
      _ ≤ nearestInt other := nearestInt_mono less
  · calc nearestInt value
        ≤ nearestInt (other - 1) := nearestInt_mono (by omega)
      _ = other - 1 := nearestInt_of_small (by omega)
      _ < other := by omega
      _ = nearestInt other := (nearestInt_of_small (by omega)).symm

theorem spacing_le_of_64_bits {units : Nat} (small : units < 18446744073709551616) :
    spacing units ≤ 2048 := by
  have log : units.log2 < 64 := by
    rcases Nat.eq_zero_or_pos units with rfl | positive
    · simp
    · exact (Nat.log2_lt positive.ne').mpr small
  calc spacing units
      ≤ 2 ^ 11 := Nat.pow_le_pow_right Nat.two_pos (by omega)
    _ = 2048 := rfl

theorem nearestInt_lt_of_apart {value other : Int} (apart : value + 2048 < other)
    (small : value.natAbs < 18446744073709551616)
    (smallOther : other.natAbs < 18446744073709551616) :
    nearestInt value < nearestInt other := by
  have near := nearestInt_near value
  have nearOther := nearestInt_near other
  have spaced := spacing_le_of_64_bits small
  have spacedOther := spacing_le_of_64_bits smallOther
  omega

theorem ofInt_eq_finite {value : Int} (small : value.natAbs ≤ 18446744073709551616) :
    ∃ x : Finite64, ofInt value = .finite x ∧ x.scaled = nearestInt value * one := by
  obtain ⟨x, rounded⟩ := exists_ofInt_finite small
  have units : x.units = roundUnits value.natAbs 1 * one := by
    rw [← units_of_ofUnits rounded, roundUnits_mul_one]
  have sign : x.negative = decide (value < 0) := by
    rw [ofInt, ofUnits] at rounded
    split at rounded
    next =>
      cases rounded
      rfl
    next => cases rounded
  refine ⟨x, rounded, ?_⟩
  rw [Finite64.scaled, units, sign]
  -- The unit is a power too large to be worked out.
  generalize one = unit
  obtain ⟨whole, rfl | rfl⟩ := value.eq_nat_or_neg
  · simp [nearestInt_natCast]
  · rcases Nat.eq_zero_or_pos whole with rfl | positive
    · simp [nearestInt, roundUnits_of_small]
    · simp [nearestInt_neg, nearestInt_natCast, positive]

theorem compare_ofInt {value other : Int} (small : value.natAbs ≤ 18446744073709551616)
    (smallOther : other.natAbs ≤ 18446744073709551616) :
    (ofInt value).compare (ofInt other) =
      some (Ord.compare (nearestInt value) (nearestInt other)) := by
  obtain ⟨x, rounded, scaled⟩ := ofInt_eq_finite small
  obtain ⟨y, roundedOther, scaledOther⟩ := ofInt_eq_finite smallOther
  have positive : (0 : Int) < one := Int.natCast_pos.mpr one_pos
  rw [rounded, roundedOther, compare, scaled, scaledOther, Option.some_inj]
  rcases lt_trichotomy (nearestInt value) (nearestInt other) with less | same | more
  · rw [compare_lt_iff_lt.mpr less]
    exact compare_lt_iff_lt.mpr (Int.mul_lt_mul_of_pos_right less positive)
  · rw [same, Std.ReflOrd.compare_self, Std.ReflOrd.compare_self]
  · rw [compare_gt_iff_gt.mpr more]
    exact compare_gt_iff_gt.mpr (Int.mul_lt_mul_of_pos_right more positive)

end FlowLogic.Binary64
