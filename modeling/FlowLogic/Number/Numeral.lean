import FlowLogic.Number.Decimal
import FlowLogic.Text.Digit

/-!
Numerals: an optional sign, digits with at most one point among or after or before them, and an
optional power of ten.  Digits of any script make a numeral, but only ASCII ones have a value.
-/

namespace FlowLogic

structure Numeral where
  negative : Bool
  whole : List Char
  fraction : Option (List Char)
  /-- Whether the power of ten is negative, and its digits. -/
  power : Option (Bool × List Char)

namespace Numeral

def readSign : List Char → Bool × List Char
  | '-' :: rest => (true, rest)
  | '+' :: rest => (false, rest)
  | cs => (false, cs)

def readPower : List Char → Option (Option (Bool × List Char))
  | [] => some none
  | c :: rest =>
    if c = 'e' ∨ c = 'E' then
      let (negative, digits) := readSign rest
      if !digits.isEmpty && digits.all Text.isScriptDigit then some (some (negative, digits))
      else none
    else none

def read? (cs : List Char) : Option Numeral :=
  let (negative, unsigned) := readSign cs
  let whole := unsigned.takeWhile Text.isScriptDigit
  match unsigned.dropWhile Text.isScriptDigit with
  | '.' :: rest =>
    let fraction := rest.takeWhile Text.isScriptDigit
    if whole.isEmpty && fraction.isEmpty then none
    else (readPower (rest.dropWhile Text.isScriptDigit)).map (⟨negative, whole, some fraction, ·⟩)
  | rest => if whole.isEmpty then none else (readPower rest).map (⟨negative, whole, none, ·⟩)

def hasValue (n : Numeral) : Bool :=
  n.whole.all Text.isAsciiDigit && (n.fraction.getD []).all Text.isAsciiDigit
    && ((n.power.map Prod.snd).getD []).all Text.isAsciiDigit

/-- The value as a decimal, taking all digits for ASCII ones. -/
def decimal (n : Numeral) : Decimal :=
  let fraction := n.fraction.getD []
  let power : Int :=
    match n.power with
    | none => 0
    | some (negative, digits) =>
      if negative then -(Decimal.digitsValue digits : Int) else Decimal.digitsValue digits
  ⟨n.negative, Decimal.digitsValue (n.whole ++ fraction), power - fraction.length⟩

def toBinary64? (n : Numeral) : Option Binary64 :=
  if n.hasValue then some n.decimal.toBinary64 else none

def toInt? (n : Numeral) : Option Int :=
  match n.fraction, n.power with
  | none, none =>
    if n.hasValue then
      let magnitude := Decimal.digitsValue n.whole
      some (if n.negative then -(magnitude : Int) else magnitude)
    else none
  | _, _ => none

end Numeral

def readInt64? (cs : List Char) : Option Int :=
  let (negative, digits) := Numeral.readSign cs
  if digits.isEmpty || !digits.all Text.isAsciiDigit then none
  else
    let magnitude := Decimal.digitsValue digits
    let value : Int := if negative then -(magnitude : Int) else magnitude
    if -9223372036854775808 ≤ value ∧ value < 9223372036854775808 then some value else none

def readIndex? (cs : List Char) : Option Nat :=
  let digits :=
    match cs with
    | '+' :: rest => rest
    | _ => cs
  if digits.isEmpty || !digits.all Text.isAsciiDigit then none
  else
    let value := Decimal.digitsValue digits
    if value < 18446744073709551616 then some value else none

end FlowLogic
