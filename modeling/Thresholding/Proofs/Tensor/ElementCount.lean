import Thresholding.Evaluation.Basic
import Thresholding.Proofs.Tensor.Product

/-!
# Thresholding.Proofs.Tensor.ElementCount

**Values that are as many as a shape has elements**, which is all that an evaluation checks
of values.
-/

namespace Thresholding

/-- Values are as many as a shape has elements, and these can be counted. -/
def Shape.Holds (s : Shape) (values : Buffer) : Prop :=
  ∃ n, s.elementCount? = some n ∧ (values.length : Int) = n.toInt

/-- Whether values are held depends on how many they are. -/
theorem Shape.Holds.congr {s : Shape} {values values' : Buffer} (h : s.Holds values)
    (hlength : values'.length = values.length) : s.Holds values' := by
  obtain ⟨n, hn, hvalues⟩ := h
  exact ⟨n, hn, hlength ▸ hvalues⟩

/-- An operand is of a tensor type: this is what it is said to be, and its values are as many. -/
structure Operand.OfType (o : Operand) (type : TensorType) : Prop where
  /-- It has the shape of the type. -/
  shape_eq : o.shape = type.shape
  /-- It has the element type of the type. -/
  elementType_eq : o.elementType = type.elementType
  /-- It has a value for each element. -/
  holds : type.shape.Holds o.values

namespace Graph

theorem checkLength_eq_ok_iff {id : NodeId} {type : TensorType} {values values' : Buffer} :
    checkLength id type values = .ok values' ↔ type.shape.Holds values ∧ values' = values := by
  unfold checkLength Shape.Holds
  cases type.shape.elementCount? with
  | none => simp
  | some n =>
      dsimp only
      split
      · next h => simp [h, eq_comm]
      · next h => simp [h]

end Graph

end Thresholding
