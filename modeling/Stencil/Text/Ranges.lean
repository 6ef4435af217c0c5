/-!
# Ranges of code points

Unicode properties are kept as ascending lists of closed ranges.  A search
stops at the first range that ends behind the code point asked for.
-/

namespace Stencil

namespace Text

/-- Whether a code point lies in one of the ascending ranges. -/
def covers : List (Nat × Nat) → Nat → Bool
  | [], _ => false
  | (first, last) :: ranges, code =>
      if code ≤ last then
        decide (first ≤ code)
      else
        covers ranges code

end Text

end Stencil
