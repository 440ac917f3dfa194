import FlowLogic.Number.Binary64

/-!
Decimals: the binary number nearest to a decimal, and the decimal with the fewest digits that
leads back to a binary number.
-/

namespace FlowLogic

structure Decimal where
  negative : Bool
  digits : Nat
  exponent : Int
  deriving DecidableEq

namespace Decimal

/-- No magnitude with a decimal exponent above this one is finite, and none below its opposite
rounds to anything but zero. -/
def exponentBound : Nat := 400

/-- The nearest binary number.  Hopelessly large or small exponents are settled by their size. -/
def toBinary64 (d : Decimal) : Binary64 :=
  if d.digits = 0 then .zero d.negative
  else if (exponentBound : Int) < d.exponent then .infinite d.negative
  else if d.exponent < -((exponentBound + d.digits.log2 : Nat) : Int) then .zero d.negative
  else
    .ofUnits d.negative (d.digits * Nat.pow 10 d.exponent.toNat * Binary64.one)
      (Nat.pow 10 (-d.exponent).toNat)

def digitChars (n : Nat) : List Char := Nat.toDigits 10 n

def digitValue (c : Char) : Nat := c.toNat - '0'.toNat

/-- The number with the given digits, from the lowest, in a base. -/
def inBase (base : Nat) : List Nat → Nat
  | [] => 0
  | digit :: rest => digit + base * inBase base rest

def joinPairs (base : Nat) : List Nat → List Nat
  | low :: high :: rest => (low + base * high) :: joinPairs base rest
  | rest => rest

/-- The number with the given digits, by joining them until one is left; the factors stay of like
size, so that long runs of digits take little time. -/
def joined : (rounds base : Nat) → List Nat → Nat
  | _, _, [] => 0
  | _, _, [digit] => digit
  | 0, base, digits => inBase base digits
  | rounds + 1, base, digits => joined rounds (base * base) (joinPairs base digits)

def digitsValue (digits : List Char) : Nat :=
  joined digits.length 10 (digits.reverse.map digitValue)

theorem inBase_joinPairs (base : Nat) (digits : List Nat) :
    inBase (base * base) (joinPairs base digits) = inBase base digits := by
  induction digits using joinPairs.induct with
  | case1 low high rest ih =>
      simp only [joinPairs, inBase, ih]
      rw [Nat.mul_add, Nat.mul_assoc, Nat.add_assoc]
  | case2 rest h =>
      match rest with
      | [] => rfl
      | [digit] => simp [joinPairs, inBase]
      | low :: high :: rest => exact absurd rfl (h low high rest)

theorem joined_eq_inBase (rounds base : Nat) (digits : List Nat) :
    joined rounds base digits = inBase base digits := by
  induction rounds generalizing base digits with
  | zero =>
      match digits with
      | [] => rfl
      | [digit] => simp [joined, inBase]
      | low :: high :: rest => rfl
  | succ rounds ih =>
      match digits with
      | [] => rfl
      | [digit] => simp [joined, inBase]
      | low :: high :: rest =>
          rw [joined, ih, inBase_joinPairs]
          all_goals simp

theorem digitsValue_eq_inBase (digits : List Char) :
    digitsValue digits = inBase 10 (digits.reverse.map digitValue) :=
  joined_eq_inBase _ _ _

end Decimal

namespace Finite64

/-- The least `k` from `start` on with `one ≤ units * 10 ^ k`, looked for at `fuel` places. -/
def firstScale (units : Nat) : (fuel start : Nat) → Nat
  | 0, start => start
  | fuel + 1, start =>
    if Binary64.one ≤ units * Nat.pow 10 start then start else firstScale units fuel (start + 1)

def leadingExponent (units : Nat) : Int :=
  if Binary64.one ≤ units then (Decimal.digitChars (units / Binary64.one)).length - 1
  else -(firstScale units 324 1 : Int)

def readsBack (units : Nat) (d : Decimal) : Bool :=
  match ({ d with negative := false } : Decimal).toBinary64 with
  | .finite x => x.units == units
  | _ => false

/-- The neighbours of `units` among the multiples of `10 ^ exponent`, the nearer one first and on a
tie the one with the even last digit. -/
def neighbours (units : Nat) (exponent : Int) : List Nat :=
  let num := units * Nat.pow 10 (-exponent).toNat
  let den := Binary64.one * Nat.pow 10 exponent.toNat
  let low := num / den
  let twice := 2 * (num % den)
  if twice < den ∨ (twice = den ∧ low % 2 = 0) then [low, low + 1] else [low + 1, low]

/-- Of the decimals with the digit places from the leading one down to `exponent`, the one nearest
to the magnitude that leads back to it. -/
def candidate? (units : Nat) (exponent : Int) : Option Decimal :=
  ((neighbours units exponent).map (Decimal.mk false · exponent)).find? (readsBack units)

/-- A finite magnitude is a decimal itself, with a long run of digits. -/
def exactDecimal (units : Nat) : Decimal := ⟨false, units * Nat.pow 5 1074, -1074⟩

/-- The fewest digits that lead back to the magnitude, and the nearest of these.  A power of ten can
come out with one zero at its end, which the places above it did not offer. -/
def shortest (units : Nat) : Decimal :=
  let leading := leadingExponent units
  ((List.range 17).findSome? fun (places : Nat) => candidate? units (leading - places)).getD
    (exactDecimal units)

end Finite64

end FlowLogic
