/-!
# Places in a source

What goes wrong in a source is reported together with a byte position.
-/

namespace Stencil

/-- Something about a byte position of a source. -/
structure Located (α : Type) where
  content : α
  position : Nat
  deriving DecidableEq

end Stencil
