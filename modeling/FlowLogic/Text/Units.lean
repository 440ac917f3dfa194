/-!
Texts in which characters may be written as numbers of sixteen bits.  A character beyond the first
plane takes two such units, a lead and a trail; neither of them stands for anything alone.
-/

namespace FlowLogic.Text

inductive TextPart where
  | char (c : Char)
  | unit (number : Nat)
  deriving DecidableEq

def isLead (unit : Nat) : Bool := 0xd800 ≤ unit && unit ≤ 0xdbff

def isTrail (unit : Nat) : Bool := 0xdc00 ≤ unit && unit ≤ 0xdfff

def pairValue (lead trail : Nat) : Nat := 0x10000 + (lead - 0xd800) * 0x400 + (trail - 0xdc00)

/-- The characters of the parts after a lead, if there is one to be completed. -/
def charsFrom? (pair : (lead trail : Nat) → Nat) : Option Nat → List TextPart → Option (List Char)
  | none, [] => some []
  | none, .char c :: rest => (charsFrom? pair none rest).map (c :: ·)
  | none, .unit number :: rest =>
    if isLead number then charsFrom? pair (some number) rest
    else if isTrail number then none
    else (charsFrom? pair none rest).map (Char.ofNat number :: ·)
  | some lead, .unit number :: rest =>
    if isTrail number then (charsFrom? pair none rest).map (Char.ofNat (pair lead number) :: ·)
    else none
  | some _, _ => none

/-- The characters of a text, if every lead and every trail has its counterpart beside it. -/
def charsOf? (pair : (lead trail : Nat) → Nat) (parts : List TextPart) : Option (List Char) :=
  charsFrom? pair none parts

end FlowLogic.Text
