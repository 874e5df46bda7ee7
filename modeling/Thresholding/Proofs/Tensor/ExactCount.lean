import Mathlib.Algebra.Order.BigOperators.GroupWithZero.List
import Mathlib.Algebra.Order.Ring.Int
import Thresholding.Proofs.Tensor.Product

/-!
# Thresholding.Proofs.Tensor.ExactCount

**The count of elements against their number.** A count that is given is the number of elements. But
the dimensions are multiplied from left to right, and the counting ends where a product leaves the
64-bit range, although the whole product may come back into it (`Shape.ComesBack`): a zero further
right makes the shape empty, or a sign makes `2 ^ 63` its negative. These are the only shapes without
a count that have a 64-bit number of elements.

For positive dimensions the count is exact, and then their order makes no difference.
-/

namespace Thresholding

/-- An integer of 64 bits. -/
def FitsInt64 (n : Int) : Prop := Int64.minValue.toInt ≤ n ∧ n ≤ Int64.maxValue.toInt

theorem fitsInt64_iff {n : Int} : FitsInt64 n ↔ -2 ^ 63 ≤ n ∧ n < 2 ^ 63 := by
  simp only [FitsInt64, Int64.toInt_minValue, Int64.toInt_maxValue]
  omega

namespace Shape

variable {s t : Shape}

/-- The number of elements: the product of the dimensions as integers. -/
def size (s : Shape) : Int := (s.dims.map Int64.toInt).prod

/-- The product of the first dimensions. -/
def frontSize (s : Shape) (k : Nat) : Int := ((s.dims.take k).map Int64.toInt).prod

theorem size_eq_frontSize_mul (s : Shape) (k : Nat) :
    s.size = s.frontSize k * ((s.dims.drop k).map Int64.toInt).prod := by
  rw [size, frontSize, ← List.prod_append, ← List.map_append, List.take_append_drop]

/-- **The count is the number of elements**, and it is there if the product of the first dimensions
always fits. -/
theorem elementCount?_eq_some_iff {n : Int64} :
    s.elementCount? = some n ↔ (∀ k, FitsInt64 (s.frontSize k)) ∧ n.toInt = s.size := by
  simp only [elementCount?, checkedProduct_eq_some_iff, exists_toInt_eq_iff]
  rfl

/-- The elements are counted if their number is a 64-bit integer, and only then. -/
def CountsExactly (s : Shape) : Prop :=
  ∀ n : Int64, s.elementCount? = some n ↔ n.toInt = s.size

theorem countsExactly_iff_fits :
    s.CountsExactly ↔ (FitsInt64 s.size → ∀ k, FitsInt64 (s.frontSize k)) := by
  simp only [CountsExactly, elementCount?_eq_some_iff, and_iff_right_iff_imp]
  constructor
  · intro h hsize
    obtain ⟨n, hn⟩ := exists_toInt_eq_iff.2 hsize
    exact h n hn
  · intro h n hn
    exact h (exists_toInt_eq_iff.1 ⟨n, hn⟩)

/-! ### Products that come back -/

/-- Dimensions other than zero do not make a product smaller. -/
theorem one_le_natAbs_prod {dims : List Int64} (h : 0 ∉ dims) :
    1 ≤ (dims.map Int64.toInt).prod.natAbs := by
  have hne : (dims.map Int64.toInt).prod ≠ 0 := by
    rw [Ne, List.prod_eq_zero_iff, List.mem_map]
    intro hzero
    obtain ⟨d, hd, hd0⟩ := hzero
    exact h (Int64.toInt_inj.1 (hd0.trans Int64.toInt_zero.symm) ▸ hd)
  omega

/-- A product that has left the 64-bit range ends within it only by a zero or by a sign. -/
theorem fits_size_iff {k : Nat} (h : ¬ FitsInt64 (s.frontSize k)) :
    FitsInt64 s.size ↔ 0 ∈ s.dims.drop k ∨ s.frontSize k = 2 ^ 63 ∧ s.size = -2 ^ 63 := by
  have hsize := s.size_eq_frontSize_mul k
  by_cases hzero : 0 ∈ s.dims.drop k
  · have hprod : ((s.dims.drop k).map Int64.toInt).prod = 0 :=
      List.prod_eq_zero (List.mem_map.2 ⟨0, hzero, rfl⟩)
    rw [hprod, Int.mul_zero] at hsize
    simp [hzero, hsize, fitsInt64_iff]
  · -- what comes after does not make the product smaller, so only its sign can help
    have hle : (s.frontSize k).natAbs ≤ s.size.natAbs := by
      rw [hsize, Int.natAbs_mul]
      exact Nat.le_mul_of_pos_right _ (one_le_natAbs_prod hzero)
    simp only [fitsInt64_iff, hzero, false_or] at h ⊢
    omega

/-- After the first `k` dimensions the product is out of the 64-bit range, and it comes back: there is
a zero to come, or the sign changes and makes `2 ^ 63` its negative. -/
def ComesBack (s : Shape) (k : Nat) : Prop :=
  ¬ FitsInt64 (s.frontSize k) ∧
    (0 ∈ s.dims.drop k ∨ s.frontSize k = 2 ^ 63 ∧ s.size = -2 ^ 63)

/-- **The shapes that are counted exactly** are those whose product does not come back into the 64-bit
range once it has left it. -/
theorem countsExactly_iff (s : Shape) : s.CountsExactly ↔ ¬ ∃ k, s.ComesBack k := by
  rw [countsExactly_iff_fits, not_exists, forall_comm]
  refine forall_congr' fun k => ?_
  by_cases hfits : FitsInt64 (s.frontSize k)
  · simp [ComesBack, hfits]
  · simp only [ComesBack, hfits, not_false_eq_true, true_and, ← fits_size_iff hfits, imp_false]

/-- A shape of no elements, the first dimensions of which have a product of `2 ^ 64`. -/
def emptyLast : Shape := ⟨[2 ^ 62, 4, 0]⟩

/-- **A shape that is not counted exactly.** There are no elements, and they are counted if the zero
comes first, but not if it comes last. -/
theorem not_countsExactly_emptyLast :
    emptyLast.size = 0 ∧ emptyLast.elementCount? = none ∧ ¬ emptyLast.CountsExactly ∧
      ∃ t : Shape, emptyLast.dims.Perm t.dims ∧ t.elementCount? = some 0 := by
  have hnone : emptyLast.elementCount? = none := by decide +kernel
  have hsize : emptyLast.size = 0 := by decide +kernel
  refine ⟨hsize, hnone, fun h => ?_, ⟨[0, 2 ^ 62, 4]⟩, by decide +kernel, by decide +kernel⟩
  have hcounted := (h 0).2 hsize.symm
  rw [hnone] at hcounted
  exact absurd hcounted (by simp)

/-! ### The order of the dimensions -/

theorem size_perm (h : s.dims.Perm t.dims) : s.size = t.size := (h.map Int64.toInt).prod_eq

/-- The order of the dimensions makes no difference to a count that is exact. -/
theorem CountsExactly.perm (hs : s.CountsExactly) (ht : t.CountsExactly)
    (h : s.dims.Perm t.dims) : s.elementCount? = t.elementCount? := by
  refine Option.ext fun n => ?_
  rw [hs n, ht n, size_perm h]

/-- Positive dimensions are counted exactly, since the product grows with each of them. -/
theorem countsExactly_of_pos (h : ∀ d ∈ s.dims, 0 < d.toInt) : s.CountsExactly := by
  rw [countsExactly_iff_fits]
  intro hsize k
  have hfront : 0 < s.frontSize k :=
    List.prod_pos (List.forall_mem_map.2 fun d hd => h d (List.mem_of_mem_take hd))
  have hrest : 0 < ((s.dims.drop k).map Int64.toInt).prod :=
    List.prod_pos (List.forall_mem_map.2 fun d hd => h d (List.mem_of_mem_drop hd))
  have hle : s.frontSize k ≤ s.size := by
    rw [s.size_eq_frontSize_mul k]
    exact le_mul_of_one_le_right (Int.le_of_lt hfront) hrest
  rw [fitsInt64_iff] at hsize ⊢
  omega

/-- **The order of positive dimensions makes no difference** to the count of elements. -/
theorem elementCount?_perm (h : ∀ d ∈ s.dims, 0 < d.toInt) (hperm : s.dims.Perm t.dims) :
    s.elementCount? = t.elementCount? :=
  (countsExactly_of_pos h).perm (countsExactly_of_pos fun d hd => h d (hperm.mem_iff.2 hd)) hperm

end Shape

end Thresholding
