/-!
# Character classes

A class of characters is a list of ranges of code points. Membership does not depend on the order
of the ranges.
-/

set_option autoImplicit false

namespace KeywordFilter.Unicode

/-- The code points from `first` to `last`, both included. -/
structure CodeRange where
  first : Nat
  last : Nat
  deriving DecidableEq, Repr

def CodeRange.holds (range : CodeRange) (code : Nat) : Bool :=
  range.first ≤ code && code ≤ range.last

abbrev CharClass := List CodeRange

namespace CharClass

def holds (cls : CharClass) (code : Nat) : Bool :=
  cls.any fun range => range.holds code

def contains (cls : CharClass) (c : Char) : Bool :=
  cls.holds c.toNat

theorem holds_iff {cls : CharClass} {code : Nat} :
    cls.holds code = true ↔ ∃ range ∈ cls, range.first ≤ code ∧ code ≤ range.last := by
  simp [holds, CodeRange.holds]

end CharClass

end KeywordFilter.Unicode
