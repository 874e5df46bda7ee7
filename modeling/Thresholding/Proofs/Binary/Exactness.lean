import Thresholding.Proofs.Domain.Bias

/-!
# Thresholding.Proofs.Binary.Exactness

**Arithmetic on integers is exact** as long as the result needs no more bits than the format has.

An integer of a floating-point format is a sign and its magnitude in quanta
(`isInt_iff_exists_sign`). Sums and conversions round the exact result once, so all that is to be
shown is that the exact result is representable (`isInt_ofRatio`).
-/

namespace Thresholding

theorem Format.precision_add_scale_lt_limit (f : Format) : f.precision + f.scale < f.limit := by
  cases f <;> decide

/-- A format holds the integers of as many bits as it has, and the power of two after them. -/
theorem Format.representable_mul_scale {f : Format} {n : Nat} (h : n ≤ 2 ^ f.precision) :
    f.Representable (n * 2 ^ f.scale) := by
  refine Format.representable_mul_two_pow h ?_
  calc n * 2 ^ f.scale ≤ 2 ^ f.precision * 2 ^ f.scale := Nat.mul_le_mul_right _ h
    _ = 2 ^ (f.precision + f.scale) := (Nat.pow_add 2 _ _).symm
    _ < 2 ^ f.limit := Nat.pow_lt_pow_right Nat.one_lt_two f.precision_add_scale_lt_limit

namespace Binary

variable {f g : Format} {x y : Binary f} {m n : Int} {negative : Bool}

theorem signed_mul (negative : Bool) (a b : Nat) :
    signed negative (a * b) = signed negative a * b := by
  cases negative with
  | false => simp [signed]
  | true => simp only [signed, if_true, Int.natCast_mul, Int.neg_mul]

theorem signed_lt_zero (n : Int) : signed (decide (n < 0)) n.natAbs = n := by
  unfold signed
  split
  · next h => simp only [decide_eq_true_eq] at h; omega
  · next h => simp only [decide_eq_true_eq] at h; omega

theorem isInt_iff_exists_sign : x.IsInt n ↔ ∃ negative h,
    x = finite negative (n.natAbs * 2 ^ f.scale) h ∧ signed negative n.natAbs = n := by
  constructor
  · intro hx
    obtain ⟨negative, quanta, h, rfl, hn⟩ := hx
    have hquanta : quanta = n.natAbs * 2 ^ f.scale := by
      rw [← natAbs_signed negative quanta, hn, Int.natAbs_mul, Int.natAbs_pow]
      rfl
    subst hquanta
    refine ⟨negative, h, rfl, ?_⟩
    rw [signed_mul, Int.natCast_pow] at hn
    exact Int.eq_of_mul_eq_mul_right (Int.ne_of_gt (Int.pow_pos (by decide))) hn
  · intro hx
    obtain ⟨negative, h, rfl, hn⟩ := hx
    exact ⟨negative, _, h, rfl, by rw [signed_mul, hn, Int.natCast_pow]; rfl⟩

theorem IsInt.unique (hm : x.IsInt m) (hn : x.IsInt n) : m = n := by
  obtain ⟨negative, quanta, h, rfl, hm⟩ := hm
  obtain ⟨_, _, _, heq, hn⟩ := hn
  cases heq
  exact Int.eq_of_mul_eq_mul_right (Int.ne_of_gt (Int.pow_pos (by decide))) (hm.symm.trans hn)

/-- Numbers that are integers are numerically equal exactly when they are the same integer. -/
theorem IsInt.numEq_iff (hx : x.IsInt m) (hy : y.IsInt n) : x.numEq y = true ↔ m = n := by
  rw [numEq_iff_isInt hy]
  constructor
  · intro hx'
    exact hx.unique hx'
  · intro h
    exact h ▸ hx

/-- An integer of few enough bits is not rounded. -/
theorem isInt_ofRatio {den : Nat} (hn : n.natAbs ≤ 2 ^ f.precision)
    (hsign : signed negative n.natAbs = n) (hden : 0 < den) :
    (ofRatio f negative (n.natAbs * 2 ^ f.scale * den) den).IsInt n := by
  rw [ofRatio_mul_self (Format.representable_mul_scale hn) hden]
  exact isInt_iff_exists_sign.2 ⟨negative, _, rfl, hsign⟩

/-- **Sums of integers are exact** when they have few enough bits. -/
theorem IsInt.add (hx : x.IsInt m) (hy : y.IsInt n) (h : (m + n).natAbs ≤ 2 ^ f.precision) :
    (x + y).IsInt (m + n) := by
  obtain ⟨s, a, ha, rfl, hm⟩ := hx
  obtain ⟨t, b, hb, rfl, hn⟩ := hy
  have hsum : signed s a + signed t b = (m + n) * 2 ^ f.scale := by rw [hm, hn, Int.add_mul]
  have habs : (signed s a + signed t b).natAbs = (m + n).natAbs * 2 ^ f.scale * 1 := by
    rw [hsum, Int.natAbs_mul, Int.natAbs_pow, Nat.mul_one]
    rfl
  show (ofRatio f (if signed s a + signed t b = 0 then s && t else
    decide (signed s a + signed t b < 0)) (signed s a + signed t b).natAbs 1).IsInt (m + n)
  rw [habs]
  refine isInt_ofRatio h ?_ Nat.one_pos
  have hpos : (0 : Int) < 2 ^ f.scale := Int.pow_pos (by decide)
  by_cases hzero : m + n = 0
  · -- either sign does for zero
    simp [hzero, signed]
  · have hne : signed s a + signed t b ≠ 0 := by
      rw [hsum]
      exact Int.mul_ne_zero hzero (Int.ne_of_gt hpos)
    have hlt : signed s a + signed t b < 0 ↔ m + n < 0 := by
      rw [hsum]
      simpa only [Int.zero_mul] using Int.mul_lt_mul_right (b := m + n) (c := 0) hpos
    rw [if_neg hne, decide_eq_decide.2 hlt]
    exact signed_lt_zero (m + n)

/-- **Conversions of integers are exact** when they have few enough bits. -/
theorem IsInt.convert (hx : x.IsInt n) (h : n.natAbs ≤ 2 ^ g.precision) :
    (x.convert g).IsInt n := by
  obtain ⟨negative, hquanta, rfl, hsign⟩ := isInt_iff_exists_sign.1 hx
  rw [Binary.convert, Nat.mul_right_comm]
  exact isInt_ofRatio h hsign (Nat.two_pow_pos _)

end Binary

end Thresholding
