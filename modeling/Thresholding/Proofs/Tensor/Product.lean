import Mathlib.Algebra.BigOperators.Ring.Finset
import Thresholding.Tensor.Shape

/-!
# Thresholding.Proofs.Tensor.Product

**Products of dimensions in 64 bits.** The product from left to right is the exact product, and it
is there as long as the product of every prefix is a 64-bit integer.
-/

namespace Thresholding

theorem foldlM_checkedMul_eq_some_iff {dims : List Int64} {a n : Int64} :
    dims.foldlM checkedMul a = some n ↔
      (∀ k, ∃ p : Int64, p.toInt = a.toInt * ((dims.take k).map Int64.toInt).prod) ∧
        n.toInt = a.toInt * (dims.map Int64.toInt).prod := by
  induction dims generalizing a with
  | nil =>
      simp only [List.foldlM_nil, Option.pure_def, Option.some.injEq, List.take_nil, List.map_nil,
        List.prod_nil, mul_one, Int64.toInt_inj]
      exact ⟨fun h => ⟨fun _ => ⟨a, rfl⟩, h.symm⟩, fun h => h.2.symm⟩
  | cons d dims ih =>
      simp only [List.foldlM_cons, Option.bind_eq_bind, Option.bind_eq_some_iff, ih,
        checkedMul_eq_some_iff, List.map_cons, List.prod_cons, ← mul_assoc]
      constructor
      · rintro ⟨b, hb, hfronts, hn⟩
        refine ⟨fun k => ?_, by rw [hb, hn]⟩
        cases k with
        | zero => exact ⟨a, by simp⟩
        | succ k =>
            obtain ⟨p, hp⟩ := hfronts k
            exact ⟨p, by simp [hp, ← hb, mul_assoc]⟩
      · rintro ⟨hfronts, hn⟩
        -- the prefix of length 1 is what the rest of the product starts from
        obtain ⟨b, hb⟩ := hfronts 1
        simp only [List.take_succ_cons, List.take_zero, List.map_cons, List.map_nil, List.prod_cons,
          List.prod_nil, mul_one] at hb
        refine ⟨b, hb.symm, fun k => ?_, by rw [hb, hn]⟩
        obtain ⟨p, hp⟩ := hfronts (k + 1)
        exact ⟨p, by simp [hp, hb, mul_assoc]⟩

/-- **When a product of dimensions is there, and what it is.** -/
theorem checkedProduct_eq_some_iff {dims : List Int64} {n : Int64} :
    checkedProduct dims = some n ↔
      (∀ k, ∃ p : Int64, p.toInt = ((dims.take k).map Int64.toInt).prod) ∧
        n.toInt = (dims.map Int64.toInt).prod := by
  rw [checkedProduct, foldlM_checkedMul_eq_some_iff]
  simp

theorem checkedProduct_pair {a b n : Int64} (h : checkedProduct [a, b] = some n) :
    a.toInt * b.toInt = n.toInt := by
  simpa using (checkedProduct_eq_some_iff.1 h).2.symm

/-- The 64-bit integers are those between the least and the greatest. -/
theorem exists_toInt_eq_iff {m : Int} :
    (∃ p : Int64, p.toInt = m) ↔ Int64.minValue.toInt ≤ m ∧ m ≤ Int64.maxValue.toInt := by
  constructor
  · rintro ⟨p, rfl⟩
    exact ⟨p.minValue_le_toInt, p.toInt_le⟩
  · rintro ⟨hmin, hmax⟩
    exact ⟨Int64.ofInt m, Int64.toInt_ofInt_of_le hmin (Int.lt_add_one_of_le hmax)⟩

/-- The product of dimensions from left to right never leaves the 64-bit range. -/
def ProductFits (dims : List Int64) : Prop :=
  ∀ k ≤ dims.length, Int64.minValue.toInt ≤ ((dims.take k).map Int64.toInt).prod ∧
    ((dims.take k).map Int64.toInt).prod ≤ Int64.maxValue.toInt

instance (dims : List Int64) : Decidable (ProductFits dims) :=
  inferInstanceAs (Decidable (∀ k ≤ dims.length, _))

/-- **There is a product exactly if every product on the way to it fits.** -/
theorem exists_checkedProduct_iff {dims : List Int64} :
    (∃ n, checkedProduct dims = some n) ↔ ProductFits dims := by
  simp only [checkedProduct_eq_some_iff, ProductFits, ← exists_toInt_eq_iff]
  constructor
  · rintro ⟨_, hfronts, -⟩ k -
    exact hfronts k
  · intro h
    obtain ⟨n, hn⟩ := h dims.length (Nat.le_refl _)
    rw [List.take_length] at hn
    refine ⟨n, fun k => ?_, hn⟩
    rcases Nat.le_total k dims.length with hk | hk
    · exact h k hk
    · exact ⟨n, by rw [hn, List.take_of_length_le hk]⟩

/-- Dimensions that are not negative have a product as long as it fits at every step. -/
theorem exists_checkedProduct {dims : List Int64} {sizes : List Nat}
    (hdims : dims.map Int64.toInt = sizes.map Nat.cast)
    (hfits : ∀ k ≤ sizes.length, ((sizes.take k).prod : Int) ≤ Int64.maxValue.toInt) :
    ∃ n, checkedProduct dims = some n ∧ n.toInt = sizes.prod := by
  have hlength : dims.length = sizes.length := by simpa using congrArg List.length hdims
  have hproduct : ProductFits dims := by
    intro k hk
    rw [List.map_take, hdims, ← List.map_take, ← Nat.cast_list_prod]
    exact ⟨Int.le_trans (by decide) (Int.natCast_nonneg _), hfits k (hlength ▸ hk)⟩
  obtain ⟨n, hn⟩ := exists_checkedProduct_iff.2 hproduct
  exact ⟨n, hn, by rw [(checkedProduct_eq_some_iff.1 hn).2, hdims, Nat.cast_list_prod]⟩

end Thresholding
