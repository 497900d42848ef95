/-!
# Ranges of characters

The tables of characters list ranges of code points, each by its first and its last one.
-/

namespace CallRouting.Text

def inRanges (ranges : Array (Nat × Nat)) (c : Char) : Bool :=
  ranges.any fun (first, last) => first ≤ c.toNat && c.toNat ≤ last

end CallRouting.Text
