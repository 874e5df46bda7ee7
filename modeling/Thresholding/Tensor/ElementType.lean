/-!
# Thresholding.Tensor.ElementType

The **element types** a tensor may carry. The operators of this library copy an element
type from operand to result and never look at it.
-/

namespace Thresholding

/-- The type of a tensor's elements. -/
inductive ElementType
  /-- Single-precision floating point. -/
  | float32
  /-- Half-precision floating point. -/
  | float16
  /-- Half-size floating point with the exponent range of single precision. -/
  | bfloat16
  /-- Signed 8-bit integers. -/
  | int8
  /-- Unsigned 8-bit integers. -/
  | uint8
  /-- Signed 32-bit integers. -/
  | int32
  /-- Signed 64-bit integers. -/
  | int64
  deriving Repr, DecidableEq

namespace ElementType

/-- The name of an element type, as type texts show it. -/
def text : ElementType → String
  | float32 => "float32"
  | float16 => "float16"
  | bfloat16 => "bfloat16"
  | int8 => "int8"
  | uint8 => "uint8"
  | int32 => "int32"
  | int64 => "int64"

end ElementType

end Thresholding
