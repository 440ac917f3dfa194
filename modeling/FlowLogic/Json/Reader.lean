import FlowLogic.Json.Basic
import FlowLogic.Number.Numeral
import FlowLogic.Text.Units

/-!
Reading JSON documents.  Only the four blanks of the format are skipped, a number has to fit a
finite float, surrogates come in pairs, and nesting is limited.  Of equal keys the last one wins.
-/

namespace FlowLogic

namespace Json.Reader

open Text (TextPart charsOf? pairValue)

def depthLimit : Nat := 127

def isBlank (c : Char) : Bool := c == ' ' || c == '\n' || c == '\t' || c == '\r'

def skipBlanks (cs : List Char) : List Char := cs.dropWhile isBlank

def hexValue? (c : Char) : Option Nat :=
  if '0' ≤ c ∧ c ≤ '9' then some (c.toNat - '0'.toNat)
  else if 'a' ≤ c ∧ c ≤ 'f' then some (c.toNat - 'a'.toNat + 10)
  else if 'A' ≤ c ∧ c ≤ 'F' then some (c.toNat - 'A'.toNat + 10)
  else none

def unit? : List Char → Option Nat
  | a :: b :: c :: d :: _ => do
    let a ← hexValue? a
    let b ← hexValue? b
    let c ← hexValue? c
    let d ← hexValue? d
    some (((a * 16 + b) * 16 + c) * 16 + d)
  | _ => none

def escapes : List (Char × Char) :=
  [('"', '"'), ('\\', '\\'), ('/', '/'), ('b', '\x08'), ('f', '\x0c'), ('n', '\n'), ('r', '\r'),
   ('t', '\t')]

/-- What the characters after a backslash stand for, and how many of them belong to it. -/
def readEscape? : List Char → Option (TextPart × Nat)
  | 'u' :: rest => (unit? rest).map fun unit => (.unit unit, 5)
  | letter :: _ => (escapes.lookup letter).map fun c => (.char c, 1)
  | [] => none

/-- The parts of a text after its opening quote; `skip` characters still belong to the last part. -/
def readParts? : (skip : Nat) → List Char → Option (List TextPart × List Char)
  | _, [] => none
  | skip + 1, _ :: rest => readParts? skip rest
  | 0, c :: rest =>
    if c = '"' then some ([], rest)
    else if c = '\\' then
      match readEscape? rest with
      | some (part, length) =>
        (readParts? length rest).map fun (parts, rest) => (part :: parts, rest)
      | none => none
    else if c.toNat < 0x20 then none
    else (readParts? 0 rest).map fun (parts, rest) => (.char c :: parts, rest)

def readText? (cs : List Char) : Option (String × List Char) := do
  let (parts, rest) ← readParts? 0 cs
  some (String.ofList (← charsOf? pairValue parts), rest)

def readDigits? (cs : List Char) : Option (List Char × List Char) :=
  let digits := cs.takeWhile Text.isAsciiDigit
  if digits.isEmpty then none else some (digits, cs.dropWhile Text.isAsciiDigit)

def readFraction? : List Char → Option (Option (List Char) × List Char)
  | '.' :: rest => (readDigits? rest).map fun (digits, rest) => (some digits, rest)
  | cs => some (none, cs)

def readPower? : List Char → Option (Option (Bool × List Char) × List Char)
  | c :: rest =>
    if c = 'e' ∨ c = 'E' then
      let (negative, rest) := Numeral.readSign rest
      (readDigits? rest).map fun (digits, rest) => (some (negative, digits), rest)
    else some (none, c :: rest)
  | [] => some (none, [])

/-- A numeral without a plus sign and without a zero in front of other digits. -/
def readNumeral? (cs : List Char) : Option (Numeral × List Char) := do
  let (negative, rest) :=
    match cs with
    | '-' :: rest => (true, rest)
    | _ => (false, cs)
  let (whole, rest) ← readDigits? rest
  if whole.head? = some '0' ∧ 1 < whole.length then none
  let (fraction, rest) ← readFraction? rest
  let (power, rest) ← readPower? rest
  some (⟨negative, whole, fraction, power⟩, rest)

/-- Appends digits to a significand as long as it stays below `2 ^ 64`; gives the other digits too. -/
def appendDigits (significand : Nat) : List Char → Nat × List Char
  | [] => (significand, [])
  | c :: rest =>
    let longer := significand * 10 + Decimal.digitValue c
    if longer < 18446744073709551616 then appendDigits longer rest else (significand, c :: rest)

/-- A numeral with the digits that its significand has room for.  The digits after the point are
tried even if some before it are left over. -/
def shortened (n : Numeral) : Decimal :=
  let (whole, wholeLeft) := appendDigits 0 n.whole
  let (digits, fractionLeft) := appendDigits whole (n.fraction.getD [])
  ⟨n.negative, digits, n.decimal.exponent + wholeLeft.length + fractionLeft.length⟩

/-- The exponent of the greatest power of ten that is a finite float. -/
def greatestPower : Nat := 308

def powerOfTen (places : Nat) : Binary64 := .ofInt (Nat.pow 10 places : Nat)

/-- The quotient by a power of ten, taken in steps that are finite floats. -/
def lowered (value : Binary64) (places : Nat) : Binary64 :=
  if places ≤ greatestPower then value / powerOfTen places
  else if value = .zero false then value
  else lowered (value / powerOfTen greatestPower) (places - greatestPower)
termination_by places
decreasing_by
  unfold greatestPower at *
  omega

def raised (value : Binary64) (places : Nat) : Binary64 :=
  if value = .zero false then value
  else if places ≤ greatestPower then value * powerOfTen places
  else .infinite false

/-- The float of a numeral, if it is finite.  The significand is rounded, and so is every step that
scales it by a power of ten, so the result may miss the nearest float by its last digits. -/
def float? (n : Numeral) : Option Json :=
  let d := shortened n
  let significand := Binary64.ofInt d.digits
  let scaled :=
    if 0 ≤ d.exponent then raised significand d.exponent.toNat
    else lowered significand (-d.exponent).toNat
  match scaled with
  | .finite value => some (.num (.float { value with negative := d.negative }))
  | _ => none

/-- A numeral without point and power is an integer where it fits, but not the negative zero. -/
def numberValue? (n : Numeral) : Option Json :=
  match n.toInt? with
  | some value =>
    if value = 0 ∧ n.negative = true then float? n
    else (ofInt? value).or (float? n)
  | none => float? n

def readWord? (word : String) (value : Json) (cs : List Char) : Option (Json × List Char) :=
  if word.toList.isPrefixOf cs then some (value, cs.drop word.length) else none

mutual

/-- The value at the start of a text and what follows it; `fuel` bounds the number of its parts and
`depth` their nesting. -/
def readValue? : (fuel depth : Nat) → List Char → Option (Json × List Char)
  | 0, _, _ => none
  | fuel + 1, depth, cs =>
    match skipBlanks cs with
    | [] => none
    | c :: rest =>
      if c = '"' then (readText? rest).map fun (text, rest) => (.str text, rest)
      else if c = '[' then
        match depth, skipBlanks rest with
        | 0, _ => none
        | _ + 1, ']' :: rest => some (.arr [], rest)
        | depth + 1, rest =>
          (readItems? fuel depth rest).map fun (items, rest) => (.arr items, rest)
      else if c = '{' then
        match depth, skipBlanks rest with
        | 0, _ => none
        | _ + 1, '}' :: rest => some (.obj [], rest)
        | depth + 1, rest => (readFields? fuel depth rest).map fun (fields, rest) =>
          (.obj (Dict.ofEntries fields), rest)
      else if c = 't' then readWord? "true" (.bool true) (c :: rest)
      else if c = 'f' then readWord? "false" (.bool false) (c :: rest)
      else if c = 'n' then readWord? "null" .null (c :: rest)
      else do
        let (numeral, rest) ← readNumeral? (c :: rest)
        some (← numberValue? numeral, rest)

def readItems? : (fuel depth : Nat) → List Char → Option (List Json × List Char)
  | 0, _, _ => none
  | fuel + 1, depth, cs => do
    let (item, rest) ← readValue? fuel depth cs
    match skipBlanks rest with
    | ',' :: rest =>
      let (items, rest) ← readItems? fuel depth rest
      some (item :: items, rest)
    | ']' :: rest => some ([item], rest)
    | _ => none

def readFields? : (fuel depth : Nat) → List Char → Option (List (String × Json) × List Char)
  | 0, _, _ => none
  | fuel + 1, depth, cs => do
    match skipBlanks cs with
    | '"' :: rest =>
      let (key, rest) ← readText? rest
      match skipBlanks rest with
      | ':' :: rest =>
        let (value, rest) ← readValue? fuel depth rest
        let field := (key, value)
        match skipBlanks rest with
        | ',' :: rest =>
          let (fields, rest) ← readFields? fuel depth rest
          some (field :: fields, rest)
        | '}' :: rest => some ([field], rest)
        | _ => none
      | _ => none
    | _ => none

end

end Json.Reader

open Json.Reader in
def Json.read? (document : String) : Option Json :=
  let cs := document.toList
  match readValue? (2 * cs.length + 2) depthLimit cs with
  | some (value, rest) => if (skipBlanks rest).isEmpty then some value else none
  | none => none

end FlowLogic
