/-!
Sets of characters as lists of code point ranges, both ends included, in the order of their code
points.
-/

namespace FlowLogic.Text

abbrev Ranges := List (Nat × Nat)

namespace Ranges

/-- Whether a character is in one of the ranges; those that start behind it are not looked at. -/
def contains : Ranges → Char → Bool
  | [], _ => false
  | (first, last) :: rest, c =>
    if c.toNat < first then false else c.toNat ≤ last || contains rest c

end Ranges

end FlowLogic.Text
