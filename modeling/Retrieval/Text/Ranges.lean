/-!
# Classes of characters as tables of ranges

A class of characters is given by the first and last code points of its runs.
-/

namespace Retrieval.Text

/-- Whether a character lies in one of the runs of a table. -/
def inRanges (ranges : List (Nat × Nat)) (c : Char) : Bool :=
  ranges.any fun (low, high) => low ≤ c.toNat && c.toNat ≤ high

end Retrieval.Text
