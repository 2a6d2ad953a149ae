/-!
# Texts in order, each once

Listings of tags and of the initials of categories give texts in increasing order, comparing
their characters one by one, with every text once.
-/

namespace Almanac.Text

/-- Removes the neighbours equal to their predecessor from a sorted list. -/
def dedupSorted : List String → List String
  | a :: b :: rest => if a == b then dedupSorted (b :: rest) else a :: dedupSorted (b :: rest)
  | xs => xs

/-- The texts in increasing order, each once. -/
def sortedDistinct (xs : List String) : List String :=
  dedupSorted (xs.mergeSort fun a b => decide (a ≤ b))

end Almanac.Text
