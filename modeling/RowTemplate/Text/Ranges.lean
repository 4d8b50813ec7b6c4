/-! # Ranges of code points

A property of characters is a sorted list of disjoint closed ranges. Looking a
character up stops at the first range that starts above it.
-/

namespace RowTemplate.Text

/-- Disjoint closed ranges of code points, in ascending order. -/
abbrev Ranges := List (Nat × Nat)

/-- The code point lies in one of the ranges. -/
def Ranges.holdsAt : Ranges → Nat → Bool
  | [], _ => false
  | (low, high) :: rest, n => if n < low then false else n ≤ high || holdsAt rest n

/-- The character lies in one of the ranges. -/
def Ranges.holds (ranges : Ranges) (c : Char) : Bool :=
  ranges.holdsAt c.toNat

end RowTemplate.Text
