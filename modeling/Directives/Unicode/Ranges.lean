import Directives.Text.Basic

/-! Sets of characters given by ranges.

A property of the Unicode Character Database is a list of ranges of code points,
in ascending order and apart from each other. -/
namespace Directives.Unicode

/-- Ranges of code points, both ends included. -/
abbrev Ranges := List (Nat × Nat)

/-- Whether a code point lies in one of the ranges, which ascend. -/
def Ranges.hold : Ranges → Nat → Bool
  | [], _ => false
  | (first, last) :: ranges, n => if n < first then false else n ≤ last || Ranges.hold ranges n

/-- Whether a character lies in one of the ranges. -/
def Ranges.has (ranges : Ranges) (c : Char) : Bool :=
  ranges.hold c.toNat

end Directives.Unicode
