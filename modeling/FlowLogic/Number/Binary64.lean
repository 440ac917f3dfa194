/-!
Binary floating point numbers of 64 bits, held exactly.

A finite magnitude is a whole number of units of `2 ^ (-1074)`, the least positive magnitude.
So sums are integer sums, comparisons are integer comparisons, and every operation rounds once,
to the nearest representable magnitude and on a tie to the one with the even significand.
-/

namespace FlowLogic

namespace Binary64

/-- The number of units in one. -/
def one : Nat := Nat.pow 2 1074

/-- The first magnitude that is too large to be finite, in units. -/
def limit : Nat := Nat.pow 2 2098

/-- The distance of neighbouring magnitudes around `units`: 53 binary digits are kept. -/
def spacing (units : Nat) : Nat := Nat.pow 2 (units.log2 - 52)

def Representable (units : Nat) : Prop := spacing units ∣ units ∧ units < limit

instance (units : Nat) : Decidable (Representable units) :=
  inferInstanceAs (Decidable (_ ∧ _))

/-- The whole number nearest to `num / den`, the even one of two. -/
def roundHalfEven (num den : Nat) : Nat :=
  let quotient := num / den
  let twice := 2 * (num % den)
  if twice < den then quotient
  else if den < twice then quotient + 1
  else if quotient % 2 = 0 then quotient
  else quotient + 1

/-- The grid magnitude nearest to `num / den` units, with no bound above. -/
def roundUnits (num den : Nat) : Nat :=
  let step := spacing (num / den)
  roundHalfEven num (den * step) * step

theorem roundHalfEven_le (num den : Nat) : roundHalfEven num den ≤ num / den + 1 := by
  unfold roundHalfEven
  dsimp only
  repeat' split
  all_goals omega

theorem le_roundHalfEven (num den : Nat) : num / den ≤ roundHalfEven num den := by
  unfold roundHalfEven
  dsimp only
  repeat' split
  all_goals omega

theorem spacing_mul_dvd {significand shift : Nat} (h : significand ≤ Nat.pow 2 53) :
    spacing (significand * Nat.pow 2 shift) ∣ significand * Nat.pow 2 shift := by
  unfold spacing
  simp only [Nat.pow_eq] at h ⊢
  rcases Nat.lt_or_eq_of_le h with hlt | heq
  · apply Nat.dvd_trans (Nat.pow_dvd_pow 2 (m := _) (n := shift) ?_) (Nat.dvd_mul_left _ _)
    rcases Nat.eq_zero_or_pos significand with hzero | hpos
    · simp [hzero]
    · have hne : significand * 2 ^ shift ≠ 0 :=
        Nat.mul_ne_zero (by omega) (Nat.ne_of_gt (Nat.pow_pos (by decide)))
      have : (significand * 2 ^ shift).log2 < 53 + shift := by
        rw [Nat.log2_lt hne, Nat.pow_add]
        exact Nat.mul_lt_mul_of_pos_right hlt (Nat.pow_pos (by decide))
      omega
  · subst heq
    rw [← Nat.pow_add, Nat.log2_two_pow]
    exact Nat.pow_dvd_pow 2 (by omega)

theorem roundUnits_onGrid (num den : Nat) : spacing (roundUnits num den) ∣ roundUnits num den := by
  unfold roundUnits
  dsimp only
  apply spacing_mul_dvd
  apply Nat.le_trans (roundHalfEven_le _ _)
  rw [← Nat.div_div_eq_div_mul, Nat.pow_eq]
  have : num / den / spacing (num / den) < 2 ^ 53 := by
    unfold spacing
    rw [Nat.pow_eq, Nat.div_lt_iff_lt_mul (Nat.pow_pos (by decide)), ← Nat.pow_add]
    exact Nat.lt_of_lt_of_le Nat.lt_log2_self (Nat.pow_le_pow_right (by decide) (by omega))
  omega

end Binary64

/-- A finite number: a sign, which zero has too, and a representable magnitude in units. -/
structure Finite64 where
  negative : Bool
  units : Nat
  representable : Binary64.Representable units
  deriving DecidableEq

inductive Binary64 where
  | nan
  | infinite (negative : Bool)
  | finite (value : Finite64)
  deriving DecidableEq

namespace Finite64

def scaled (x : Finite64) : Int := if x.negative then -(x.units : Int) else x.units

def isZero (x : Finite64) : Bool := x.units == 0

def isWhole (x : Finite64) : Bool := x.units % Binary64.one == 0

def truncate (x : Finite64) : Int :=
  let magnitude := x.units / Binary64.one
  if x.negative then -(magnitude : Int) else magnitude

end Finite64

namespace Binary64

/-- The number nearest to `num / den` units: infinite when that is no finite magnitude. -/
def ofUnits (negative : Bool) (num den : Nat) : Binary64 :=
  if h : roundUnits num den < limit then
    .finite ⟨negative, roundUnits num den, roundUnits_onGrid num den, h⟩
  else .infinite negative

def zero (negative : Bool) : Binary64 := ofUnits negative 0 1

def ofInt (value : Int) : Binary64 := ofUnits (decide (value < 0)) (value.natAbs * one) 1

def abs : Binary64 → Binary64
  | .nan => .nan
  | .infinite _ => .infinite false
  | .finite x => .finite { x with negative := false }

/-- The sum; a zero sum is negative only when both numbers are. -/
def add : Binary64 → Binary64 → Binary64
  | .nan, _ | _, .nan => .nan
  | .infinite a, .infinite b => if a == b then .infinite a else .nan
  | .infinite a, .finite _ => .infinite a
  | .finite _, .infinite b => .infinite b
  | .finite x, .finite y =>
    let sum := x.scaled + y.scaled
    if sum = 0 then zero (x.negative && y.negative)
    else ofUnits (decide (sum < 0)) sum.natAbs 1

def mul : Binary64 → Binary64 → Binary64
  | .nan, _ | _, .nan => .nan
  | .infinite a, .infinite b => .infinite (a != b)
  | .infinite a, .finite y => if y.isZero then .nan else .infinite (a != y.negative)
  | .finite x, .infinite b => if x.isZero then .nan else .infinite (x.negative != b)
  | .finite x, .finite y => ofUnits (x.negative != y.negative) (x.units * y.units) one

def div : Binary64 → Binary64 → Binary64
  | .nan, _ | _, .nan => .nan
  | .infinite _, .infinite _ => .nan
  | .infinite a, .finite y => .infinite (a != y.negative)
  | .finite x, .infinite b => zero (x.negative != b)
  | .finite x, .finite y =>
    let negative := x.negative != y.negative
    if y.isZero then (if x.isZero then .nan else .infinite negative)
    else ofUnits negative (x.units * one) y.units

instance : Add Binary64 := ⟨add⟩
instance : Mul Binary64 := ⟨mul⟩
instance : Div Binary64 := ⟨div⟩

def powNat (base acc : Binary64) (exponent : Nat) : Binary64 :=
  if exponent < 2 then (if exponent = 1 then acc * base else acc)
  else powNat (base * base) (if exponent % 2 = 1 then acc * base else acc) (exponent / 2)
termination_by exponent
decreasing_by omega

def pow (base : Binary64) (exponent : Int) : Binary64 :=
  let power := powNat base (ofInt 1) exponent.natAbs
  if exponent < 0 then ofInt 1 / power else power

/-- Changes the whole part of a finite number, given the magnitude as a fraction of `one`. -/
def mapUnits (f : Bool → Nat → Nat) : Binary64 → Binary64
  | .finite x => ofUnits x.negative (f x.negative x.units * one) 1
  | x => x

def floor : Binary64 → Binary64 :=
  mapUnits fun negative units => if negative then (units + (one - 1)) / one else units / one

def ceil : Binary64 → Binary64 :=
  mapUnits fun negative units => if negative then units / one else (units + (one - 1)) / one

/-- The nearest whole number; a half goes away from zero. -/
def round : Binary64 → Binary64 :=
  mapUnits fun _ units => (2 * units + one) / (2 * one)

/-- The whole part, clamped to the range from `low` to `high`; zero for `nan`. -/
def toIntClamped (low high : Int) : Binary64 → Int
  | .nan => 0
  | .infinite negative => if negative then low else high
  | .finite x => max low (min high x.truncate)

def toInt64 : Binary64 → Int := toIntClamped (-9223372036854775808) 9223372036854775807

def toInt32 : Binary64 → Int := toIntClamped (-2147483648) 2147483647

/-- The order of numbers; `nan` has no place in it, and the two zeros share one. -/
def compare : Binary64 → Binary64 → Option Ordering
  | .nan, _ | _, .nan => none
  | .infinite a, .infinite b =>
    some (if a == b then .eq else if a then .lt else .gt)
  | .infinite a, .finite _ => some (if a then .lt else .gt)
  | .finite _, .infinite b => some (if b then .gt else .lt)
  | .finite x, .finite y => some (Ord.compare x.scaled y.scaled)

def numEq (x y : Binary64) : Bool := compare x y == some .eq

end Binary64

end FlowLogic
