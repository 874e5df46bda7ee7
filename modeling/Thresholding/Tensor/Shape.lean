/-!
# Thresholding.Tensor.Shape

**Tensor shapes**: the dimensions of a tensor, outermost first.

Design points:

* A dimension is a 64-bit signed integer and nothing more is asked of it: shapes come
  from a host and may hold zero, negative or huge dimensions.
* Products of dimensions are taken from left to right and fail at the first partial
  product that leaves the 64-bit range (`checkedProduct`). This is not the same as the
  full product leaving the range: a zero further right comes too late.
-/

namespace Thresholding

/-! ### Products in 64 bits -/

/-- The product of two dimensions, unless it leaves the 64-bit range. -/
def checkedMul (a b : Int64) : Option Int64 :=
  let product := a.toInt * b.toInt
  if Int64.minValue.toInt ≤ product ∧ product ≤ Int64.maxValue.toInt then
    some (Int64.ofInt product)
  else
    none

theorem checkedMul_eq_some_iff {a b c : Int64} :
    checkedMul a b = some c ↔ a.toInt * b.toInt = c.toInt := by
  simp only [checkedMul]
  split
  · next h =>
    rw [Option.some.injEq]
    constructor
    · rintro rfl
      exact (Int64.toInt_ofInt_of_le h.1 (Int.lt_add_one_of_le h.2)).symm
    · intro hc
      rw [hc, Int64.ofInt_toInt]
  · next h =>
    simp only [reduceCtorEq, false_iff]
    intro hc
    exact h ⟨hc ▸ c.minValue_le_toInt, hc ▸ c.toInt_le⟩

/-- The product of dimensions from left to right, unless a partial product leaves the
64-bit range. -/
def checkedProduct (dims : List Int64) : Option Int64 := dims.foldlM checkedMul 1

@[simp] theorem checkedProduct_nil : checkedProduct [] = some 1 := rfl

/-- The text of a list of integers: `[2, -1]`. -/
def bracketed (values : List Int) : String :=
  "[" ++ ", ".intercalate (values.map toString) ++ "]"

/-! ### Shapes -/

/-- The shape of a tensor; the empty list is the shape of a scalar. -/
structure Shape where
  /-- The dimensions, outermost first. -/
  dims : List Int64
  deriving Repr, DecidableEq

namespace Shape

/-- The shape of rank 0. -/
def scalar : Shape := ⟨[]⟩

/-- The number of dimensions. -/
def rank (s : Shape) : Nat := s.dims.length

/-- The number of elements, unless counting them leaves the 64-bit range. -/
def elementCount? (s : Shape) : Option Int64 := checkedProduct s.dims

/-- The last dimension; a scalar has none. -/
def last? (s : Shape) : Option Int64 := s.dims.getLast?

/-- The dimension at an axis, a negative axis counting from the end. -/
def dim? (s : Shape) (axis : Int) : Option Int64 :=
  let index := if axis < 0 then s.rank + axis else axis
  if index < 0 then none else s.dims[index.toNat]?

@[simp] theorem dim?_natCast (s : Shape) (axis : Nat) : s.dim? axis = s.dims[axis]? := by
  have h : ¬ ((axis : Int) < 0) := by omega
  simp [dim?, h]

/-- The text of a shape: `[2, 3]`, and `[]` for a scalar. -/
def text (s : Shape) : String := bracketed (s.dims.map Int64.toInt)

end Shape

end Thresholding
