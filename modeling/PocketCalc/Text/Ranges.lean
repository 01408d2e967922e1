/-! # Ranges of characters

A class of characters that fills many ranges of code points is written as the list of its
*boundaries*: the first boundary starts a range, the second is the first code point behind it, and
so on. A character belongs to the class when an odd number of boundaries is not beyond it.

* **`inRanges`** — whether a character is in one of the ranges. -/

namespace PocketCalc

/-- **Whether a character is in a range**: an odd number of boundaries is not beyond it. -/
def inRanges (boundaries : List Nat) (c : Char) : Bool :=
  (boundaries.takeWhile (· ≤ c.toNat)).length % 2 == 1

end PocketCalc
