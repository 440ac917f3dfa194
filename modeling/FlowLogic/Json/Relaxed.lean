import FlowLogic.Json.Reader
import FlowLogic.Json.Written
import FlowLogic.Text.Blank
import FlowLogic.Text.LetterTables

/-!
Reading documents as people write them by hand: JSON with comments, bare keys, texts in either kind
of quotes, commas after last items, and more forms of numerals.  Nesting is not limited.  Integers
have to fit the signed 64-bit range, and the infinities and `NaN` are read as `null`.  A numeral out
of range and half a pair of surrogates are part of a document, but stand for nothing.
-/

namespace FlowLogic

namespace Json.Relaxed

open Text (TextPart charsOf?)
open Json.Reader (hexValue? unit? readPower?)

def isLineEnd (c : Char) : Bool := c == '\n' || c == '\r' || c == '\u2028' || c == '\u2029'

/-- The byte order mark is a blank, and the next-line control is not. -/
def isBlank (c : Char) : Bool := c == '\ufeff' || (Text.isBlank c && c != '\u0085')

inductive Gap where
  | free
  | line
  | block

def skipGap? : Gap → List Char → Option (List Char)
  | .free, '/' :: '/' :: rest => skipGap? .line rest
  | .free, '/' :: '*' :: rest => skipGap? .block rest
  | .free, c :: rest => if isBlank c then skipGap? .free rest else some (c :: rest)
  | .line, c :: rest => if isLineEnd c then skipGap? .free rest else skipGap? .line rest
  | .block, '*' :: '/' :: rest => skipGap? .free rest
  | .block, _ :: rest => skipGap? .block rest
  | .block, [] => none
  | .free, [] | .line, [] => some []

def skip? (cs : List Char) : Option (List Char) := skipGap? .free cs

/-- The code point of a lead and its trail.  The bits of the lead and those of the trail, moved
beyond the first plane, are united and not added up. -/
def pairValue (lead trail : Nat) : Nat := (lead - 0xd800) * 0x400 ||| (trail - 0xdc00 + 0x10000)

def textOf? (parts : List TextPart) : Option String :=
  (charsOf? pairValue parts).map String.ofList

def escapes : List (Char × Char) :=
  [('b', '\x08'), ('f', '\x0c'), ('n', '\n'), ('r', '\r'), ('t', '\t'), ('v', '\x0b'),
   ('0', '\x00')]

def escaped? (c : Char) : Option Char :=
  match escapes.lookup c with
  | some meant => some meant
  | none => if Text.isAsciiDigit c then none else some c

/-- What the characters after a backslash stand for, and how many of them belong to it.  An escaped
line end stands for no part. -/
def readEscape? : List Char → Option (List TextPart × Nat)
  | '\r' :: '\n' :: _ => some ([], 2)
  | 'u' :: rest => (unit? rest).map fun unit => ([.unit unit], 5)
  | 'x' :: high :: low :: _ => do
    some ([.char (Char.ofNat ((← hexValue? high) * 16 + (← hexValue? low)))], 3)
  | 'x' :: _ => none
  | c :: _ => if isLineEnd c then some ([], 1) else (escaped? c).map fun c => ([.char c], 1)
  | [] => none

def readText? (quote : Char) : (skip : Nat) → List Char → Option (List TextPart × List Char)
  | _, [] => none
  | skip + 1, _ :: rest => readText? quote skip rest
  | 0, c :: rest =>
    if c = quote then some ([], rest)
    else if c = '\\' then
      match readEscape? rest with
      | some (escaped, length) =>
        (readText? quote length rest).map fun (parts, rest) => (escaped ++ parts, rest)
      | none => none
    else if isLineEnd c then none
    else (readText? quote 0 rest).map fun (parts, rest) => (.char c :: parts, rest)

def isKeyStart (c : Char) : Bool := c == '$' || c == '_' || Text.LetterTables.letters.contains c

def isKeyPart (c : Char) : Bool := isKeyStart c || Text.LetterTables.continuations.contains c

def readBareKey : (skip : Nat) → List Char → List TextPart × List Char
  | _, [] => ([], [])
  | skip + 1, _ :: rest => readBareKey skip rest
  | 0, c :: rest =>
    if isKeyPart c then
      let (parts, rest) := readBareKey 0 rest
      (.char c :: parts, rest)
    else
      match c, rest with
      | '\\', 'u' :: digits =>
        match unit? digits with
        | some unit =>
          let (parts, rest) := readBareKey 5 rest
          (.unit unit :: parts, rest)
        | none => ([], c :: rest)
      | _, _ => ([], c :: rest)

def readKey? (cs : List Char) : Option (List TextPart × List Char) :=
  match cs with
  | [] => none
  | c :: rest =>
    if c = '"' ∨ c = '\'' then readText? c 0 rest
    else if c = '\\' ∨ isKeyStart c = true then some (readBareKey 0 cs)
    else none

def isHexDigit (c : Char) : Bool := (hexValue? c).isSome

def hexDigitsValue (digits : List Char) : Nat :=
  digits.foldl (fun value c => value * 16 + (hexValue? c).getD 0) 0

/-- A hexadecimal integer of the unsigned 32-bit range. -/
def hexNumber? (digits : List Char) : Option Json :=
  if hexDigitsValue digits < 4294967296 then some (.ofNat (hexDigitsValue digits)) else none

def readFraction? (whole : List Char) (cs : List Char) :
    Option (Option (List Char) × List Char) :=
  match cs with
  | '.' :: rest =>
    let digits := rest.takeWhile Text.isAsciiDigit
    if whole.isEmpty && digits.isEmpty then none
    else some (some digits, rest.dropWhile Text.isAsciiDigit)
  | _ => if whole.isEmpty then none else some (none, cs)

def readNumeral? (negative : Bool) (cs : List Char) : Option (Numeral × List Char) := do
  let whole := cs.takeWhile Text.isAsciiDigit
  if whole.head? = some '0' ∧ 1 < whole.length then none
  let (fraction, rest) ← readFraction? whole (cs.dropWhile Text.isAsciiDigit)
  let (power, rest) ← readPower? rest
  some (⟨negative, whole, fraction, power⟩, rest)

/-- The float nearest to a numeral, if that is finite. -/
def float? (n : Numeral) : Option Json :=
  match n.decimal.toBinary64 with
  | .finite value => some (.num (.float value))
  | _ => none

def numberValue? (n : Numeral) : Option Json :=
  match n.toInt? with
  | some value =>
    if -9223372036854775808 ≤ value ∧ value < 9223372036854775808 then ofInt? value else none
  | none => float? n

def readSign? : List Char → Option Char × List Char
  | '+' :: rest => (some '+', rest)
  | '-' :: rest => (some '-', rest)
  | cs => (none, cs)

def names : List String := ["Infinity", "NaN"]

/-- A number: a hexadecimal or decimal numeral, or the name of what is no finite number.  With a
sign a hexadecimal numeral stands for nothing, and so does a name with a plus sign. -/
def readNumber? (cs : List Char) : Option (Option Json × List Char) :=
  let (sign, unsigned) := readSign? cs
  match names.find? fun name => name.toList.isPrefixOf unsigned with
  | some name => some (if sign = some '+' then none else some .null, unsigned.drop name.length)
  | none =>
    match unsigned with
    | '0' :: 'x' :: rest | '0' :: 'X' :: rest =>
      let digits := rest.takeWhile isHexDigit
      if digits.isEmpty then none
      else some (if sign = none then hexNumber? digits else none, rest.dropWhile isHexDigit)
    | _ => (readNumeral? (sign == some '-') unsigned).map fun (numeral, rest) =>
      (numberValue? numeral, rest)

def readWord? (word : String) (value : Json) (cs : List Char) : Option (Written × List Char) :=
  (Reader.readWord? word value cs).map fun (value, rest) => (.scalar (some value), rest)

mutual

def readValue? : (fuel : Nat) → List Char → Option (Written × List Char)
  | 0, _ => none
  | fuel + 1, cs => do
    match ← skip? cs with
    | [] => none
    | c :: rest =>
      if c = '"' ∨ c = '\'' then (readText? c 0 rest).map fun (parts, rest) =>
        (.scalar ((textOf? parts).map .str), rest)
      else if c = '[' then
        match ← skip? rest with
        | ']' :: rest => some (.list [], rest)
        | rest => (readItems? fuel rest).map fun (items, rest) => (.list items, rest)
      else if c = '{' then
        match ← skip? rest with
        | '}' :: rest => some (.table [], rest)
        | rest => (readEntries? fuel rest).map fun (entries, rest) => (.table entries, rest)
      else if c = 't' then readWord? "true" (.bool true) (c :: rest)
      else if c = 'f' then readWord? "false" (.bool false) (c :: rest)
      else if c = 'n' then readWord? "null" .null (c :: rest)
      else (readNumber? (c :: rest)).map fun (value, rest) => (.scalar value, rest)

def readItems? : (fuel : Nat) → List Char → Option (List Written × List Char)
  | 0, _ => none
  | fuel + 1, cs => do
    let (item, rest) ← readValue? fuel cs
    match ← skip? rest with
    | ']' :: rest => some ([item], rest)
    | ',' :: rest =>
      match ← skip? rest with
      | ']' :: rest => some ([item], rest)
      | rest => (readItems? fuel rest).map fun (items, rest) => (item :: items, rest)
    | _ => none

def readEntries? : (fuel : Nat) → List Char → Option (List (Option String × Written) × List Char)
  | 0, _ => none
  | fuel + 1, cs => do
    let (key, rest) ← readKey? (← skip? cs)
    match ← skip? rest with
    | ':' :: rest =>
      let (item, rest) ← readValue? fuel rest
      let entry := (textOf? key, item)
      match ← skip? rest with
      | '}' :: rest => some ([entry], rest)
      | ',' :: rest =>
        match ← skip? rest with
        | '}' :: rest => some ([entry], rest)
        | rest => (readEntries? fuel rest).map fun (entries, rest) => (entry :: entries, rest)
      | _ => none
    | _ => none

end

end Json.Relaxed

open Json.Relaxed in
def Written.read? (document : String) : Option Written := do
  let cs := document.toList
  let (written, rest) ← readValue? (2 * cs.length + 2) cs
  if (← skip? rest).isEmpty then some written else none

def Json.readRelaxed? (document : String) : Option Json := (Written.read? document).bind (·.value?)

end FlowLogic
