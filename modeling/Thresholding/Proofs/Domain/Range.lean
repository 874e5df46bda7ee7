import Thresholding.Proofs.Domain.Bias

/-!
# Thresholding.Proofs.Domain.Range

The **integers of a domain**, and which counts the bias moves into it.

There is one count more than there are levels: as many thresholds as levels can be crossed by
none of them up to all of them. The count of all of them is the one that the bias moves out of
the domain.
-/

namespace Thresholding.IntDomain

/-- The integers that the bits of a domain can write. A signed domain without bits holds only
zero. -/
def Holds (d : IntDomain) (n : Int) : Prop :=
  if d.signed then
    if d.bitWidth = 0 then n = 0
    else -2 ^ (d.bitWidth - 1) ≤ n ∧ n ≤ 2 ^ (d.bitWidth - 1) - 1
  else 0 ≤ n ∧ n ≤ 2 ^ d.bitWidth - 1

instance (d : IntDomain) (n : Int) : Decidable (d.Holds n) := by
  unfold Holds
  infer_instance

/-- The least integer of a domain is half of its levels below zero, if it has a sign and a bit to
keep it in, and zero otherwise. -/
theorem least_eq (d : IntDomain) :
    d.least = if d.signed = true ∧ 1 ≤ d.bitWidth then -2 ^ (d.bitWidth - 1) else 0 := by
  unfold least
  cases d.signed with
  | false => simp
  | true =>
      cases d.bitWidth with
      | zero => simp
      | succ w => simp [Nat.pow_succ]

/-- The domains of at least one bit whose least integer is negative are those with a sign. -/
theorem least_neg_iff {d : IntDomain} (hpos : 1 ≤ d.bitWidth) : d.least < 0 ↔ d.signed = true := by
  rw [least_eq]
  cases d.signed with
  | false => simp
  | true =>
      have hpow : (0 : Int) < 2 ^ (d.bitWidth - 1) := Int.pow_pos (by decide)
      rw [if_pos ⟨rfl, hpos⟩]
      exact iff_of_true (Int.neg_lt_zero_iff.2 hpow) rfl

/-- Domains of as many bits, and of at least one, are told apart by their least integers. -/
theorem least_eq_least_iff {d d' : IntDomain} (hwidth : d.bitWidth = d'.bitWidth)
    (hpos : 1 ≤ d.bitWidth) : d.least = d'.least ↔ d = d' := by
  constructor
  · intro h
    have hsigned : d.signed = true ↔ d'.signed = true := by
      rw [← least_neg_iff hpos, ← least_neg_iff (hwidth ▸ hpos), h]
    cases d
    cases d'
    rw [IntDomain.mk.injEq]
    exact ⟨Bool.eq_iff_iff.2 hsigned, hwidth⟩
  · intro h
    rw [h]

/-- The integers of a domain are as many as its levels, from the least one on. -/
theorem holds_iff {d : IntDomain} {n : Int} :
    d.Holds n ↔ d.least ≤ n ∧ n < d.least + d.levels := by
  unfold Holds least levels
  cases d.signed with
  | false =>
      have hpow : ((2 ^ d.bitWidth : Nat) : Int) = 2 ^ d.bitWidth := Int.natCast_pow 2 _
      simp only [Bool.false_eq_true, if_false]
      omega
  | true =>
      simp only [if_true]
      cases d.bitWidth with
      | zero =>
          simp only [if_true]
          omega
      | succ w =>
          have hpow : ((2 ^ w : Nat) : Int) = 2 ^ w := Int.natCast_pow 2 _
          have hlevels : 2 ^ (w + 1) = 2 ^ w * 2 := Nat.pow_succ ..
          rw [if_neg (Nat.succ_ne_zero w), Nat.add_sub_cancel, ← hpow, hlevels]
          omega

/-- **All counts but the last one are moved into the domain.** -/
theorem holds_add_least_iff {d : IntDomain} {count : Nat} :
    d.Holds (count + d.least) ↔ count < d.levels := by
  rw [holds_iff]
  omega

/-- What a count is moved to has no more bits than the domain has levels. -/
theorem natAbs_add_least_le {d : IntDomain} {count : Nat} (h : count ≤ d.levels) :
    (count + d.least).natAbs ≤ d.levels := by
  have hleast : -(d.levels : Int) ≤ d.least ∧ d.least ≤ 0 := by
    unfold least levels
    generalize 2 ^ d.bitWidth = levels
    split <;> omega
  omega

end Thresholding.IntDomain
