import FlowLogic.Json.Basic
import FlowLogic.Number.Decimal
import FlowLogic.Text.Digit

/-!
JSON text.  It is compact: no spaces, only what has to be escaped is escaped, and a float has the
fewest digits that read back.
-/

namespace FlowLogic

namespace Decimal

def zeros (count : Nat) : List Char := List.replicate count '0'

/-- The digits without the zeros at their end, and the exponent of the first one. -/
def significant (d : Decimal) : List Char × Int :=
  let digits := digitChars d.digits
  ((digits.reverse.dropWhile (· == '0')).reverse, d.exponent + digits.length - 1)

/-- Digits of which the first one stands for `10 ^ leading`, with a decimal point. -/
def positional (digits : List Char) (leading : Int) : List Char :=
  if leading < 0 then '0' :: '.' :: zeros (-leading - 1).toNat ++ digits
  else
    let whole := leading.toNat + 1
    if digits.length ≤ whole then digits ++ zeros (whole - digits.length) ++ ['.', '0']
    else digits.take whole ++ '.' :: digits.drop whole

def scientific (digits : List Char) (leading : Int) : List Char :=
  let mantissa :=
    match digits with
    | first :: second :: rest => first :: '.' :: second :: rest
    | _ => digits
  mantissa ++ ['e', if leading < 0 then '-' else '+'] ++ digitChars leading.natAbs

/-- A float is written out from `0.00001` up to 16 whole places, and in powers of ten beyond. -/
def floatChars (d : Decimal) : List Char :=
  if d.digits = 0 then ['0', '.', '0']
  else
    let (digits, leading) := d.significant
    if -5 ≤ leading ∧ leading ≤ 15 then positional digits leading else scientific digits leading

end Decimal

def intChars (value : Int) : List Char :=
  if value < 0 then '-' :: Decimal.digitChars value.natAbs else Decimal.digitChars value.natAbs

def Finite64.chars (x : Finite64) : List Char :=
  if x.negative then '-' :: (Finite64.shortest x.units).floatChars
  else (Finite64.shortest x.units).floatChars

def JsonNumber.chars : JsonNumber → List Char
  | int value _ => intChars value
  | float value => value.chars

namespace Json

def escapeChar (c : Char) : List Char :=
  if c = '"' then ['\\', '"']
  else if c = '\\' then ['\\', '\\']
  else if c = '\n' then ['\\', 'n']
  else if c = '\r' then ['\\', 'r']
  else if c = '\t' then ['\\', 't']
  else if c = '\x08' then ['\\', 'b']
  else if c = '\x0c' then ['\\', 'f']
  else if c.toNat < 0x20 then
    ['\\', 'u', '0', '0', Text.hexDigit (c.toNat / 16), Text.hexDigit (c.toNat % 16)]
  else [c]

def quotedChars (text : String) : List Char :=
  '"' :: text.toList.flatMap escapeChar ++ ['"']

def commaSeparated : List (List Char) → List Char
  | [] => []
  | [item] => item
  | item :: rest => item ++ ',' :: commaSeparated rest

mutual

def chars : Json → List Char
  | null => ['n', 'u', 'l', 'l']
  | bool true => ['t', 'r', 'u', 'e']
  | bool false => ['f', 'a', 'l', 's', 'e']
  | num value => value.chars
  | str value => quotedChars value
  | arr items => '[' :: commaSeparated (itemChars items) ++ [']']
  | obj fields => '{' :: commaSeparated (fieldChars fields) ++ ['}']

def itemChars : List Json → List (List Char)
  | [] => []
  | item :: rest => item.chars :: itemChars rest

def fieldChars : List (String × Json) → List (List Char)
  | [] => []
  | (key, value) :: rest => (quotedChars key ++ ':' :: value.chars) :: fieldChars rest

end

def compact (value : Json) : String := String.ofList value.chars

end Json

end FlowLogic
