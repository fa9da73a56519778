/-!
Sets of characters as ranges of code points.
-/

namespace SqlComposer.Text

/-- Code points from the first up to and including the second. -/
abbrev CodeRanges := List (Nat × Nat)

def CodeRanges.has (ranges : CodeRanges) (code : Nat) : Bool :=
  ranges.any fun (first, last) => first ≤ code && code ≤ last

end SqlComposer.Text
