/-!
# Ranges of characters

A class of characters is written as the ranges of code points that it covers, with both ends
included.
-/

namespace SoloScript.Text

def inRanges (ranges : List (Nat × Nat)) (c : Char) : Bool :=
  ranges.any fun (low, high) ↦ low ≤ c.toNat && c.toNat ≤ high

end SoloScript.Text
