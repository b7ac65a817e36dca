/-!
# Ranges of characters

Properties of characters are tables of ranges of code points, both ends included, in increasing
order. The tables themselves are data of the character standard and stand in modules of their own.
-/

namespace ToneLink.Text

/-- Code points with a property, as ranges. -/
abbrev CharRanges := List (Nat × Nat)

/-- Whether a character lies in one of the ranges. -/
def CharRanges.contains (ranges : CharRanges) (c : Char) : Bool :=
  List.any ranges fun r => r.1 ≤ c.toNat && c.toNat ≤ r.2

end ToneLink.Text
