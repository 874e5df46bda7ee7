import Thresholding.Binary.Basic

/-!
# Thresholding.Domain.Basic

**Integer domains**: what a thresholding operator maps onto. A domain is a signedness and
a bit width; the number of its levels and the one bias that suits it follow from these.
-/

namespace Thresholding

/-- A domain of integers. -/
structure IntDomain where
  /-- Whether the domain holds negative integers. -/
  signed : Bool
  /-- The number of bits of an integer of the domain. -/
  bitWidth : Nat
  deriving Repr, DecidableEq

namespace IntDomain

/-- The number of integers in the domain. -/
def levels (d : IntDomain) : Nat := 2 ^ d.bitWidth

/-- The one bias consistent with the domain: it moves a count of thresholds, which starts
at zero, to the least integer of the domain. At a signed width of zero, half the levels
round down to none and the bias is negative zero. -/
def expectedBias (d : IntDomain) : Double :=
  if d.signed then -Binary.ofNat .binary64 (d.levels / 2) else .zero

/-- The keyword that starts the descriptor of a domain. -/
def keyword (signed : Bool) : List Char :=
  if signed then ['I', 'N', 'T'] else ['U', 'I', 'N', 'T']

/-- The descriptor of a domain: its keyword and its width. -/
def text (d : IntDomain) : String := String.ofList (keyword d.signed) ++ toString d.bitWidth

end IntDomain

end Thresholding
