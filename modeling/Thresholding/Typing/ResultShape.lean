import Thresholding.Tensor.Shape

/-!
# Thresholding.Typing.ResultShape

The **shape function** of the thresholding operator, for hosts that learn shapes only when
they run: the result has the shape of the data.
-/

namespace Thresholding

/-- Why the shape of a result is not known. -/
inductive ShapeError
  /-- The shape of an operand was not given. -/
  | missingInput (index : Nat)
  deriving Repr, DecidableEq

/-- The message for a cause. -/
def ShapeError.message : ShapeError → String
  | missingInput index => s!"shape mismatch: missing input {index}"

/-- The shape of the result, from the shapes of the operands. Shapes beyond the second are
not looked at. -/
def thresholdShape : List Shape → Except ShapeError Shape
  | [] => .error (.missingInput 0)
  | [_] => .error (.missingInput 1)
  | data :: _ :: _ => .ok data

end Thresholding
