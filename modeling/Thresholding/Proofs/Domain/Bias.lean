import Thresholding.Domain.Basic

/-!
# Thresholding.Proofs.Domain.Bias

The **bias of a domain as an integer**. The typing rule compares biases as floating-point
numbers; this module says which integer the comparison is with.

The biases that domains have are powers of two and zero, so no rounding happens on the way
from the integer to the number.
-/

namespace Thresholding

theorem Format.representable_two_pow {f : Format} {k : Nat} (h : k < f.limit) :
    f.Representable (2 ^ k) := by
  rw [← Nat.one_mul (2 ^ k)]
  refine Format.representable_mul_two_pow Nat.one_le_two_pow ?_
  rw [Nat.one_mul]
  exact Nat.pow_lt_pow_right Nat.one_lt_two h

namespace Binary

variable {f : Format}

/-! ### Integers among the floating-point values -/

/-- A value is a given integer. Both zeros are the integer zero; an infinity and
not-a-number are no integer. -/
def IsInt (x : Binary f) (n : Int) : Prop :=
  ∃ negative quanta h, x = finite negative quanta h ∧ signed negative quanta = n * 2 ^ f.scale

theorem natAbs_signed (negative : Bool) (quanta : Nat) :
    (signed negative quanta).natAbs = quanta := by
  cases negative <;> simp [signed]

/-- A number is numerically equal to an integer exactly when it is that integer. -/
theorem numEq_iff_isInt {x y : Binary f} {n : Int} (hy : y.IsInt n) :
    x.numEq y = true ↔ x.IsInt n := by
  obtain ⟨negative, quanta, hquanta, rfl, hn⟩ := hy
  rw [numEq_iff]
  constructor
  · rintro ⟨a, hx, ha⟩
    have hsigned : signed negative quanta = a := by simpa [rank?] using ha
    cases x with
    | nan => exact absurd hx (by simp [rank?])
    | infinity s =>
        -- the infinities stand beyond every finite value
        have hinf : signed s (2 ^ f.limit) = signed negative quanta := by
          rw [hsigned]
          simpa [rank?] using hx
        have habs := congrArg Int.natAbs hinf
        rw [natAbs_signed, natAbs_signed] at habs
        have hlt := hquanta.1
        omega
    | finite s q h =>
        have hfin : signed s q = a := by simpa [rank?] using hx
        exact ⟨s, q, h, rfl, by rw [hfin, ← hsigned, hn]⟩
  · rintro ⟨s, q, h, rfl, hq⟩
    exact ⟨n * 2 ^ f.scale, by rw [rank?, hq], by rw [rank?, hn]⟩

theorem isInt_zero : (zero : Binary f).IsInt 0 :=
  ⟨false, 0, f.representable_zero, rfl, by simp [signed]⟩

theorem IsInt.neg {x : Binary f} {n : Int} (h : x.IsInt n) : (-x).IsInt (-n) := by
  obtain ⟨negative, quanta, hquanta, rfl, hn⟩ := h
  refine ⟨!negative, quanta, hquanta, rfl, ?_⟩
  rw [Int.neg_mul, ← hn]
  cases negative <;> simp [signed]

/-- A natural number that the format holds is not rounded. -/
theorem isInt_ofNat {n : Nat} (h : f.Representable (n * 2 ^ f.scale)) : (ofNat f n).IsInt n := by
  refine ⟨false, n * 2 ^ f.scale, h, ?_, by simp [signed]⟩
  have hexact : ofRatio f false (n * 2 ^ f.scale * 1) 1 = finite false (n * 2 ^ f.scale) h :=
    ofRatio_mul_self h Nat.one_pos
  rwa [Nat.mul_one] at hexact

end Binary

namespace IntDomain

/-- The least integer of a domain. A signed width of zero leaves only zero: half of its one
level rounds down. -/
def least (d : IntDomain) : Int :=
  if d.signed then -((2 ^ d.bitWidth / 2 : Nat) : Int) else 0

/-- Half the levels of a domain are a power of two or none, which a format holds that reaches
far enough. -/
theorem representable_half_levels {f : Format} {d : IntDomain}
    (h : d.bitWidth + f.scale ≤ f.limit) : f.Representable (d.levels / 2 * 2 ^ f.scale) := by
  unfold levels
  rcases Nat.eq_zero_or_pos d.bitWidth with hw | hw
  · have hnone : 2 ^ d.bitWidth / 2 = 0 := by simp [hw]
    rw [hnone, Nat.zero_mul]
    exact f.representable_zero
  · have hhalf : 2 ^ d.bitWidth / 2 = 2 ^ (d.bitWidth - 1) := by
      have hsucc : d.bitWidth = d.bitWidth - 1 + 1 := by omega
      rw [hsucc, Nat.pow_succ, Nat.mul_div_cancel _ Nat.two_pos]
      rfl
    rw [hhalf, ← Nat.pow_add]
    exact Format.representable_two_pow (by omega)

/-- **The bias of a domain is its least integer.** -/
theorem isInt_expectedBias {d : IntDomain} (h : d.bitWidth ≤ 64) :
    d.expectedBias.IsInt d.least := by
  unfold expectedBias least levels
  cases d.signed with
  | true =>
      have hreach : 64 + Format.binary64.scale ≤ Format.binary64.limit := by decide
      have hhalf := Binary.isInt_ofNat (f := .binary64) (representable_half_levels (d := d) (by omega))
      simp only [if_true]
      exact hhalf.neg
  | false =>
      simp only [Bool.false_eq_true, if_false]
      exact Binary.isInt_zero

end IntDomain

end Thresholding
