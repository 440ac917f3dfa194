import FlowLogic.Calendar.Moment

/-!
Moments as text, by formats in which a percent sign and a letter stand for a part of the date or
time.  A format with an unknown letter is refused as a whole.
-/

namespace FlowLogic

inductive Padding where
  | none
  | zero
  | space
  deriving DecidableEq

namespace Padding

def fill (padding : Padding) (width : Nat) (sign digits : List Char) : List Char :=
  let missing := width - (sign.length + digits.length)
  match padding with
  | .none => sign ++ digits
  | .zero => sign ++ List.replicate missing '0' ++ digits
  | .space => List.replicate missing ' ' ++ sign ++ digits

def number (padding : Padding) (width : Nat) (value : Int) : List Char :=
  padding.fill width (if value < 0 then ['-'] else []) (Decimal.digitChars value.natAbs)

/--
Two places of the lowest byte of a number.  The padding matters only when the byte has no tens;
tens beyond nine are counted on through the characters behind the digits.
-/
def two (padding : Padding) (value : Int) : List Char :=
  let byte := (value % 256).toNat
  let place (count : Nat) : Char := Char.ofNat ('0'.toNat + count)
  match byte / 10, padding with
  | 0, .none => [place byte]
  | 0, .space => [' ', place byte]
  | tens, _ => [place tens, place (byte % 10)]

/-- Years of four digits stand alone; those beyond have a sign. -/
def year (padding : Padding) (value : Int) : List Char :=
  if 1000 ≤ value ∧ value ≤ 9999 then Decimal.digitChars value.natAbs
  else if 0 ≤ value ∧ value ≤ 9999 then padding.number 4 value
  else padding.fill 5 [if value < 0 then '-' else '+'] (Decimal.digitChars value.natAbs)

end Padding

namespace Moment

def monthNames : List String :=
  ["January", "February", "March", "April", "May", "June", "July", "August", "September",
   "October", "November", "December"]

def dayNames : List String :=
  ["Monday", "Tuesday", "Wednesday", "Thursday", "Friday", "Saturday", "Sunday"]

def monthName (m : Moment) : List Char := (monthNames.getD (m.date.month - 1) "").toList

def dayName (m : Moment) : List Char := (dayNames.getD m.date.sinceMonday.toNat "").toList

def hourOfHalfDay (m : Moment) : Nat := if m.hour % 12 = 0 then 12 else m.hour % 12

def fractionDigits (m : Moment) (places : Nat) : List Char :=
  Padding.zero.number places (m.billionths / Nat.pow 10 (9 - places) : Nat)

def fraction (m : Moment) : List Char :=
  if m.billionths = 0 then []
  else if m.billionths % 1000000 = 0 then '.' :: m.fractionDigits 3
  else if m.billionths % 1000 = 0 then '.' :: m.fractionDigits 6
  else '.' :: m.fractionDigits 9

def weekFrom (m : Moment) (daysSince : Int) : Int := (m.date.ordinal - daysSince + 6) / 7

def numberPart? (m : Moment) (letter : Char) (override : Option Padding) : Option (List Char) :=
  let usual (padding : Padding) := override.getD padding
  match letter with
  | 'Y' => some ((usual .zero).year m.date.year)
  | 'G' => some ((usual .zero).year m.date.isoWeek.1)
  | 'C' => some ((usual .zero).two (m.date.year / 100))
  | 'y' => some ((usual .zero).two (m.date.year % 100))
  | 'g' => some ((usual .zero).two (m.date.isoWeek.1 % 100))
  | 'm' => some ((usual .zero).two m.date.month)
  | 'd' => some ((usual .zero).two m.date.day)
  | 'e' => some ((usual .space).two m.date.day)
  | 'j' => some ((usual .zero).number 3 m.date.ordinal)
  | 'H' => some ((usual .zero).two m.hour)
  | 'k' => some ((usual .space).two m.hour)
  | 'I' => some ((usual .zero).two m.hourOfHalfDay)
  | 'l' => some ((usual .space).two m.hourOfHalfDay)
  | 'M' => some ((usual .zero).two m.minute)
  | 'S' => some ((usual .zero).two m.second)
  | 'f' => some ((usual .zero).number 9 m.billionths)
  | 's' => some ((usual .none).number 9 m.seconds)
  | 'q' => some (Decimal.digitChars ((m.date.month + 2) / 3))
  | 'u' => some (Decimal.digitChars (m.date.sinceMonday + 1).toNat)
  | 'w' => some (Decimal.digitChars m.date.sinceSunday.toNat)
  | 'U' => some ((usual .zero).two (m.weekFrom m.date.sinceSunday))
  | 'W' => some ((usual .zero).two (m.weekFrom m.date.sinceMonday))
  | 'V' => some ((usual .zero).two m.date.isoWeek.2)
  | _ => none

def part (m : Moment) (letter : Char) : List Char := (m.numberPart? letter none).getD []

def clock (m : Moment) : List Char := m.part 'H' ++ ':' :: m.part 'M' ++ ':' :: m.part 'S'

def dashedDate (m : Moment) : List Char := m.part 'Y' ++ '-' :: m.part 'm' ++ '-' :: m.part 'd'

def slashedDate (m : Moment) : List Char := m.part 'm' ++ '/' :: m.part 'd' ++ '/' :: m.part 'y'

def halfDay (m : Moment) : List Char := if m.hour < 12 then ['A', 'M'] else ['P', 'M']

def textPart? (m : Moment) : Char → Option (List Char)
  | 'A' => some m.dayName
  | 'a' => some (m.dayName.take 3)
  | 'B' => some m.monthName
  | 'b' | 'h' => some (m.monthName.take 3)
  | 'p' => some m.halfDay
  | 'P' => some (m.halfDay.map Char.toLower)
  | 'F' => some m.dashedDate
  | 'D' | 'x' => some m.slashedDate
  | 'T' | 'X' => some m.clock
  | 'R' => some (m.part 'H' ++ ':' :: m.part 'M')
  | 'r' => some (m.part 'I' ++ ':' :: m.part 'M' ++ ':' :: m.part 'S' ++ ' ' :: m.halfDay)
  | 'c' =>
    some (m.dayName.take 3 ++ ' ' :: m.monthName.take 3 ++ ' ' :: m.part 'e' ++ ' ' :: m.clock
      ++ ' ' :: m.part 'Y')
  | 'v' => some (m.part 'e' ++ '-' :: m.monthName.take 3 ++ '-' :: m.part 'Y')
  | '+' => some (m.dashedDate ++ 'T' :: m.clock ++ m.fraction ++ "+00:00".toList)
  | 'Z' => some "UTC".toList
  | 'z' => some "+0000".toList
  | '%' => some ['%']
  | 'n' => some ['\n']
  | 't' => some ['\t']
  | _ => none

def paddingMark? : Char → Option Padding
  | '-' => some .none
  | '0' => some .zero
  | '_' => some .space
  | _ => none

def directive? (m : Moment) (cs : List Char) : Option (List Char × Nat) :=
  match cs with
  | ':' :: 'z' :: _ => some ("+00:00".toList, 2)
  | ':' :: ':' :: 'z' :: _ => some ("+00:00:00".toList, 3)
  | ':' :: ':' :: ':' :: 'z' :: _ => some ("+00".toList, 4)
  | '.' :: 'f' :: _ => some (m.fraction, 2)
  | '.' :: '3' :: 'f' :: _ => some ('.' :: m.fractionDigits 3, 3)
  | '.' :: '6' :: 'f' :: _ => some ('.' :: m.fractionDigits 6, 3)
  | '.' :: '9' :: 'f' :: _ => some ('.' :: m.fractionDigits 9, 3)
  | '3' :: 'f' :: _ => some (m.fractionDigits 3, 2)
  | '6' :: 'f' :: _ => some (m.fractionDigits 6, 2)
  | '9' :: 'f' :: _ => some (m.fractionDigits 9, 2)
  | c :: rest =>
    match paddingMark? c, rest with
    | some padding, letter :: _ => (m.numberPart? letter (some padding)).map (·, 2)
    | some _, [] => none
    | none, _ => ((m.numberPart? c none).or (m.textPart? c)).map (·, 1)
  | [] => none

/-- The text of a format; `skip` characters still belong to the last part. -/
def formatFrom (m : Moment) : (skip : Nat) → List Char → Option (List Char)
  | _, [] => some []
  | skip + 1, _ :: rest => formatFrom m skip rest
  | 0, c :: rest =>
    if c = '%' then
      match m.directive? rest with
      | some (text, length) => (formatFrom m length rest).map (text ++ ·)
      | none => none
    else (formatFrom m 0 rest).map (c :: ·)

def format? (m : Moment) (format : String) : Option String :=
  (m.formatFrom 0 format.toList).map String.ofList

def usualFormat : String := "%Y-%m-%d %H:%M:%S"

end Moment

end FlowLogic
