/-!
Sets of code points given by their ranges, the form in which character properties are tabulated.
-/

namespace ViewTemplate.Text

/-- Inclusive ranges of code points in ascending order. -/
abbrev CodePointRanges := List (Nat × Nat)

namespace CodePointRanges

def holds (ranges : CodePointRanges) (character : Char) : Bool :=
  ranges.any fun (first, last) => first ≤ character.toNat && character.toNat ≤ last

end CodePointRanges

end ViewTemplate.Text
