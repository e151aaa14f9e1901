/-!
# Sets of code points

A character class of Unicode is written down as the ascending list of its inclusive ranges. Looking
up stops at the first range that starts above the code point, so that the low code points, which
make up most text, are decided within a few steps.
-/

namespace RecordSearch.Text

/-- A set of code points, as inclusive ranges in ascending order. -/
abbrev Ranges := List (Nat × Nat)

/-- Whether one of the ranges holds the code point. -/
def Ranges.holds : Ranges → Nat → Bool
  | [], _ => false
  | (first, last) :: rest, n => decide (first ≤ n) && (decide (n ≤ last) || Ranges.holds rest n)

/-- Whether the character's code point lies in one of the ranges. -/
def Ranges.holdsChar (ranges : Ranges) (c : Char) : Bool := ranges.holds c.toNat

end RecordSearch.Text
