/-!
# Sets of code points

A property of the character database is written down as the list of its maximal ranges, each by
its first and its last code point.
-/

namespace Stencil.CodePoint

/-- Whether a code point lies in one of the closed ranges. -/
def within (ranges : List (Nat × Nat)) (codePoint : Nat) : Bool :=
  ranges.any fun (first, last) => first ≤ codePoint && codePoint ≤ last

end Stencil.CodePoint
