import Thresholding.Tensor.ElementType
import Thresholding.Tensor.Shape

/-!
# Thresholding.Tensor.ExprType

The **types of expressions**. An operator is typed on tensors alone; the other two forms
stand for what a host may also record on a node.
-/

namespace Thresholding

/-- A tensor type: shape and element type. -/
structure TensorType where
  /-- The dimensions of the tensor. -/
  shape : Shape
  /-- The type of its elements. -/
  elementType : ElementType
  deriving Repr, DecidableEq

/-- The text of a tensor type: `Tensor[[2, 3], float32]`. -/
def TensorType.text (t : TensorType) : String :=
  "Tensor[" ++ t.shape.text ++ ", " ++ t.elementType.text ++ "]"

/-- The type of an expression. -/
inductive ExprType
  /-- A tensor. -/
  | tensor (type : TensorType)
  /-- A tuple of types, of any length. -/
  | tuple (fields : List ExprType)
  /-- Not inferred yet. -/
  | incomplete
  deriving Repr, Inhabited

namespace ExprType

/-! ### Equality -/

mutual

/-- Structural equality of types. -/
def beq : ExprType → ExprType → Bool
  | tensor a, tensor b => a == b
  | tuple as, tuple bs => beqAll as bs
  | incomplete, incomplete => true
  | _, _ => false

/-- Structural equality of the fields of two tuples. -/
def beqAll : List ExprType → List ExprType → Bool
  | [], [] => true
  | a :: as, b :: bs => beq a b && beqAll as bs
  | _, _ => false

end

mutual

theorem eq_of_beq : ∀ {a b : ExprType}, beq a b = true → a = b
  | tensor a, b, h => by cases b <;> simp_all [beq]
  | tuple as, b, h => by
    cases b with
    | tuple bs =>
      have hfields : as = bs := eq_of_beqAll (by simpa only [beq] using h)
      rw [hfields]
    | _ => simp [beq] at h
  | incomplete, b, h => by cases b <;> simp_all [beq]

theorem eq_of_beqAll : ∀ {as bs : List ExprType}, beqAll as bs = true → as = bs
  | [], bs, h => by cases bs <;> simp_all [beqAll]
  | a :: as, bs, h => by
    cases bs with
    | nil => simp [beqAll] at h
    | cons b bs =>
      simp only [beqAll, Bool.and_eq_true] at h
      rw [eq_of_beq h.1, eq_of_beqAll h.2]

end

mutual

theorem beq_refl : ∀ a : ExprType, beq a a = true
  | tensor a => by simp [beq]
  | tuple as => by simp [beq, beqAll_refl as]
  | incomplete => by simp [beq]

theorem beqAll_refl : ∀ as : List ExprType, beqAll as as = true
  | [] => by simp [beqAll]
  | a :: as => by simp [beqAll, beq_refl a, beqAll_refl as]

end

theorem beq_iff {a b : ExprType} : beq a b = true ↔ a = b :=
  ⟨eq_of_beq, fun h => h ▸ beq_refl a⟩

instance : DecidableEq ExprType := fun _ _ => decidable_of_iff _ beq_iff

/-! ### Views -/

/-- The tensor type, if the type is one. -/
def tensor? : ExprType → Option TensorType
  | tensor type => some type
  | _ => none

@[simp] theorem tensor?_eq_some_iff {t : ExprType} {type : TensorType} :
    t.tensor? = some type ↔ t = tensor type := by
  cases t <;> simp [tensor?]

/-- Whether the type is yet to be inferred. -/
def isIncomplete : ExprType → Bool
  | incomplete => true
  | _ => false

/-! ### Text -/

mutual

/-- The text of a type: tensors as `TensorType.text` has them, a tuple in parentheses,
and a question mark for a type that is not inferred yet. -/
def text : ExprType → String
  | tensor type => type.text
  | tuple fields => "(" ++ ", ".intercalate (texts fields) ++ ")"
  | incomplete => "?"

/-- The texts of the fields of a tuple. -/
def texts : List ExprType → List String
  | [] => []
  | type :: rest => text type :: texts rest

end

@[simp] theorem texts_eq_map (types : List ExprType) : texts types = types.map text := by
  induction types with
  | nil => simp [texts]
  | cons type rest ih => simp [texts, ih]

end ExprType

end Thresholding
