import FlowLogic.Number.Numeral

/-!
Moments of universal time: a count of seconds from the start of 1970 and a fraction of a second.
Dates follow the Gregorian calendar, before its introduction too.
-/

namespace FlowLogic

structure Date where
  year : Int
  month : Nat
  day : Nat
  deriving DecidableEq

structure Moment where
  /-- Whole seconds since the start of 1970. -/
  seconds : Int
  /-- Billionths of a second on top of them, a whole second and more of them in a leap second. -/
  nanos : Nat
  deriving DecidableEq

namespace Date

/-- The days from the start of 1970 to the date.  Years are counted from March, so that the leap day
comes last. -/
def toDays (date : Date) : Int :=
  let year := if date.month ≤ 2 then date.year - 1 else date.year
  let era := year / 400
  let yearOfEra := year % 400
  let month : Int := if date.month ≤ 2 then date.month + 9 else (date.month : Int) - 3
  let dayOfYear := (153 * month + 2) / 5 + date.day - 1
  era * 146097 + (yearOfEra * 365 + yearOfEra / 4 - yearOfEra / 100 + dayOfYear) - 719468

def ofDays (days : Int) : Date :=
  let shifted := days + 719468
  let era := shifted / 146097
  let dayOfEra := shifted % 146097
  let yearOfEra := (dayOfEra - dayOfEra / 1460 + dayOfEra / 36524 - dayOfEra / 146096) / 365
  let dayOfYear := dayOfEra - (365 * yearOfEra + yearOfEra / 4 - yearOfEra / 100)
  let month := (5 * dayOfYear + 2) / 153
  let day := dayOfYear - (153 * month + 2) / 5 + 1
  let year := yearOfEra + era * 400
  if month < 10 then ⟨year, (month + 3).toNat, day.toNat⟩
  else ⟨year + 1, (month - 9).toNat, day.toNat⟩

def isLeapYear (year : Int) : Bool := year % 4 == 0 && (year % 100 != 0 || year % 400 == 0)

def monthLength (year : Int) (month : Nat) : Nat :=
  if month = 2 then (if isLeapYear year then 29 else 28)
  else if month = 4 ∨ month = 6 ∨ month = 9 ∨ month = 11 then 30
  else 31

def isValid (date : Date) : Bool :=
  1 ≤ date.month && date.month ≤ 12 && 1 ≤ date.day
    && date.day ≤ monthLength date.year date.month

def ordinal (date : Date) : Int := date.toDays - (Date.mk date.year 1 1).toDays + 1

def sinceMonday (date : Date) : Int := (date.toDays + 3) % 7

def sinceSunday (date : Date) : Int := (date.toDays + 4) % 7

/-- The year and the number of the week that the date lies in, when a week belongs to the year of
its Thursday. -/
def isoWeek (date : Date) : Int × Int :=
  let thursday := ofDays (date.toDays - date.sinceMonday + 3)
  (thursday.year, (thursday.ordinal - 1) / 7 + 1)

end Date

namespace Moment

/-- The seconds that have a date: the years from -262143 to 262142. -/
def ofSeconds? (seconds : Int) : Option Moment :=
  if -8334601228800 ≤ seconds ∧ seconds ≤ 8210266876799 then some ⟨seconds, 0⟩ else none

def ofMillis? (millis : Int) : Option Moment :=
  (ofSeconds? (millis / 1000)).map fun moment =>
    { moment with nanos := (millis % 1000).toNat * 1000000 }

def date (m : Moment) : Date := .ofDays (m.seconds / 86400)

def secondOfDay (m : Moment) : Nat := (m.seconds % 86400).toNat

def hour (m : Moment) : Nat := m.secondOfDay / 3600

def minute (m : Moment) : Nat := m.secondOfDay / 60 % 60

def second (m : Moment) : Nat := m.secondOfDay % 60 + m.nanos / 1000000000

def billionths (m : Moment) : Nat := m.nanos % 1000000000

def readDigits? (count : Nat) (cs : List Char) : Option (Nat × List Char) :=
  let digits := cs.take count
  if digits.length = count ∧ digits.all Text.isAsciiDigit = true then
    some (Decimal.digitsValue digits, cs.drop count)
  else none

def readMark? (mark : Char) : List Char → Option (List Char)
  | c :: rest => if c = mark then some rest else none
  | [] => none

/-- A point and at least one digit, of which nine count; or nothing. -/
def readFraction? : List Char → Option (Nat × List Char)
  | '.' :: rest =>
    let digits := rest.takeWhile Text.isAsciiDigit
    if digits.isEmpty then none
    else
      let counted := digits.take 9
      some (Decimal.digitsValue counted * Nat.pow 10 (9 - counted.length),
        rest.dropWhile Text.isAsciiDigit)
  | cs => some (0, cs)

def readOffset? (cs : List Char) : Option Int :=
  match cs with
  | ['Z'] | ['z'] => some 0
  | sign :: rest => do
    let negative ←
      if sign = '+' then some false
      else if sign = '-' ∨ sign = '\u2212' then some true
      else none
    let (hours, rest) ← readDigits? 2 rest
    let rest ← readMark? ':' rest
    let (minutes, rest) ← readDigits? 2 rest
    if hours ≤ 23 ∧ minutes ≤ 59 ∧ rest.isEmpty = true then
      let ahead : Int := (hours * 60 + minutes) * 60
      some (if negative then -ahead else ahead)
    else none
  | [] => none

/-- Reads a date and a time with an offset, as in `2024-01-02T03:04:05Z`.  Every minute can have a
leap second at its end. -/
def read? (cs : List Char) : Option Moment := do
  let (year, rest) ← readDigits? 4 cs
  let rest ← readMark? '-' rest
  let (month, rest) ← readDigits? 2 rest
  let rest ← readMark? '-' rest
  let (day, rest) ← readDigits? 2 rest
  let rest ←
    match rest with
    | mark :: rest => if mark = 'T' ∨ mark = 't' ∨ mark = ' ' then some rest else none
    | [] => none
  let (hour, rest) ← readDigits? 2 rest
  let rest ← readMark? ':' rest
  let (minute, rest) ← readDigits? 2 rest
  let rest ← readMark? ':' rest
  let (second, rest) ← readDigits? 2 rest
  let (nanos, rest) ← readFraction? rest
  let ahead ← readOffset? rest
  let date : Date := ⟨year, month, day⟩
  let leap := second / 60
  if date.isValid ∧ hour ≤ 23 ∧ minute ≤ 59 ∧ second ≤ 60 then
    some ⟨date.toDays * 86400 + ((hour * 60 + minute) * 60 + (second - leap) : Nat) - ahead,
      nanos + leap * 1000000000⟩
  else none

end Moment

end FlowLogic
