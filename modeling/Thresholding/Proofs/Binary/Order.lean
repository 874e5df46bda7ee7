import Thresholding.Binary.Basic

/-!
# Thresholding.Proofs.Binary.Order

The **numeric order** of floating-point values is the order of their positions on the number line.
So it is transitive, with both zeros at one position. Not-a-number has no position and is compared
with nothing; everything else is between the infinities.
-/

namespace Thresholding

namespace Binary

variable {f : Format} {x y z : Binary f}

theorem le_iff : x.le y = true ↔ ∃ a b, x.rank? = some a ∧ y.rank? = some b ∧ a ≤ b := by
  unfold le
  cases x.rank? <;> cases y.rank? <;> simp

theorem le_trans (hxy : x.le y = true) (hyz : y.le z = true) : x.le z = true := by
  obtain ⟨a, b, ha, hb, hab⟩ := le_iff.1 hxy
  obtain ⟨b', c, hb', hc, hbc⟩ := le_iff.1 hyz
  cases hb.symm.trans hb'
  exact le_iff.2 ⟨a, c, ha, hc, Int.le_trans hab hbc⟩

@[simp] theorem nan_le (x : Binary f) : (nan : Binary f).le x = false := rfl

@[simp] theorem le_nan (x : Binary f) : x.le nan = false := by
  cases x <;> rfl

theorem signed_le (negative : Bool) (quanta : Nat) : signed negative quanta ≤ quanta := by
  unfold signed
  split <;> omega

/-- **Every number is at most positive infinity.** -/
theorem le_infinity_iff : x.le (infinity false) = true ↔ x ≠ nan := by
  cases x with
  | nan => simp
  | infinity negative =>
      exact iff_of_true (le_iff.2 ⟨_, _, rfl, rfl, signed_le negative _⟩) (by simp)
  | finite negative quanta h =>
      have hle : signed negative quanta ≤ (2 ^ f.limit : Nat) :=
        Int.le_trans (signed_le negative quanta) (Int.ofNat_le.2 (Nat.le_of_lt h.1))
      exact iff_of_true (le_iff.2 ⟨_, _, rfl, rfl, hle⟩) (by simp)

end Binary

end Thresholding
