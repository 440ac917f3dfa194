import FlowLogic.Json.Scalar
import FlowLogic.Text.Search

/-!
The comparisons of values.  Loose equality compares numbers and numerals as numbers, takes a
boolean on either side for a test of truth, and equates `null` with what is not true.  Strict
equality keeps the kinds apart.  The order is that of numbers where both sides are numeric, and of
texts otherwise.
-/

namespace FlowLogic

namespace Json

/-- Loose equality of two values that are neither `null`, booleans, arrays nor objects. -/
def scalarEq (a b : Json) : Bool :=
  match a.toNumber?, b.toNumber? with
  | some x, some y => x.numEq y
  | _, _ => a.asText == b.asText

mutual

def looseEq : Json → Json → Bool
  | null, null => true
  | null, str text | str text, null => text == ""
  | null, other | other, null => !other.isTrue
  | bool value, other | other, bool value => value == other.isTrue
  | arr items, arr others => looseEqItems items others
  | obj fields, obj others => looseEqFields fields others
  | arr _, _ | obj _, _ | _, arr _ | _, obj _ => false
  | a, b => scalarEq a b

def looseEqItems : List Json → List Json → Bool
  | [], [] => true
  | item :: rest, other :: others => looseEq item other && looseEqItems rest others
  | _, _ => false

def looseEqFields : List (String × Json) → List (String × Json) → Bool
  | [], [] => true
  | (key, value) :: rest, (otherKey, other) :: others =>
    key == otherKey && looseEq value other && looseEqFields rest others
  | _, _ => false

end

mutual

def strictEq : Json → Json → Bool
  | null, null => true
  | bool value, bool other => value == other
  | num value, num other => value.toBinary64.numEq other.toBinary64
  | str value, str other => value == other
  | arr items, arr others => strictEqItems items others
  | obj fields, obj others => strictEqFields fields others
  | _, _ => false

def strictEqItems : List Json → List Json → Bool
  | [], [] => true
  | item :: rest, other :: others => strictEq item other && strictEqItems rest others
  | _, _ => false

def strictEqFields : List (String × Json) → List (String × Json) → Bool
  | [], [] => true
  | (key, value) :: rest, (otherKey, other) :: others =>
    key == otherKey && strictEq value other && strictEqFields rest others
  | _, _ => false

end

def scalarOrder (a b : Json) : Option Ordering :=
  match a.toNumber?, b.toNumber? with
  | some x, some y => x.compare y
  | _, _ => some (compare a.asText b.asText)

/-- The order of two values, if they have one.  Arrays are ordered by their lengths. -/
def order? : Json → Json → Option Ordering
  | a@(bool _), b | a, b@(bool _) => some (compare a.isTrue b.isTrue)
  | null, str text => some (compare "" text)
  | str text, null => some (compare text "")
  | a@null, b | a, b@null => some (compare a.isTrue b.isTrue)
  | arr items, arr others => some (compare items.length others.length)
  | arr _, _ | obj _, _ | _, arr _ | _, obj _ => none
  | a, b => scalarOrder a b

def holds (haystack needle : Json) : Bool :=
  match haystack with
  | null => false
  | arr items => items.any (looseEq · needle)
  | obj fields => fields.any fun field => looseEq field.2 needle
  | other => Text.occursIn needle.asChars other.asChars

end Json

end FlowLogic
