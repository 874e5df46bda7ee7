import Thresholding.Binary.Decimal
import Thresholding.Diagnostic.Basic
import Thresholding.Domain.Descriptor

/-!
# Thresholding.Typing.Error

**Why a call is not typed**, with the message and the diagnostic for each cause.

One cause is not an error: an operand that is no tensor may become one when the call that
computes it is typed. Such a call is *deferred*.
-/

namespace Thresholding

/-- The operands of a thresholding call. -/
inductive ThresholdOperand
  /-- The values that are compared. -/
  | data
  /-- The thresholds that they are compared with. -/
  | thresholds
  deriving Repr, DecidableEq

/-- The name of an operand. -/
def ThresholdOperand.text : ThresholdOperand → String
  | data => "data"
  | thresholds => "thresholds"

/-- Why a call is not typed. -/
inductive TypeError
  /-- An operand is no tensor, or none yet. -/
  | notATensor (operand : ThresholdOperand) (found : ExprType)
  /-- The descriptor of the output domain is malformed. -/
  | badDescriptor (cause : DescriptorError)
  /-- The thresholds are a scalar. -/
  | emptyShape
  /-- The last dimension of the thresholds is not the number of levels of the domain. -/
  | thresholdCountMismatch (outDtype : String) (bitWidth expected : Nat) (found : Int64)
  /-- The bias does not suit a signed domain. -/
  | badSignedBias (outDtype : String) (expected found : Double)
  /-- The bias does not suit an unsigned domain. -/
  | badUnsignedBias (outDtype : String) (found : Double)
  /-- The number of type slots is not that of the operator. -/
  | arityMismatch (expected found : Nat)
  /-- The relation of one operator was asked about another. -/
  | unexpectedOp (op : String)
  deriving Repr, DecidableEq

namespace TypeError

/-- Whether the call may be typed later. -/
def isDeferred : TypeError → Bool
  | notATensor _ _ => true
  | _ => false

/-- The message for a cause. -/
def message : TypeError → String
  | notATensor operand found =>
    "operand `" ++ operand.text ++ "` is not a tensor type (found " ++ found.text ++ ")"
  | badDescriptor cause => "MultiThreshold out_dtype bad format: " ++ cause.message
  | emptyShape => "thresholds operand must have at least one dimension"
  | thresholdCountMismatch outDtype bitWidth expected found =>
    "thresholds last dimension is " ++ toString found.toInt
      ++ s!", expected 2**{bitWidth} = {expected} for out_dtype `{outDtype}`"
  | badSignedBias outDtype expected found =>
    s!"for a signed out_dtype `{outDtype}`, out_bias must be "
      ++ expected.text ++ ", got " ++ found.text
  | badUnsignedBias outDtype found =>
    s!"for an unsigned out_dtype `{outDtype}`, out_bias must be 0, got " ++ found.text
  | arityMismatch expected found => s!"expected {expected} type slots, got {found}"
  | unexpectedOp op => s!"relation for `{op}` applied to a different operator"

/-- How the call is mended, for the causes that tell. -/
def hint? : TypeError → Option String
  | badDescriptor _ => some "out_dtype must be INT<n> or UINT<n> with 1 <= n <= 64"
  | emptyShape => some "thresholds need 2**bit_width entries along their last axis"
  | thresholdCountMismatch _ _ _ _ =>
    some "thresholds need 2**bit_width entries along their last axis"
  | badSignedBias _ _ _ => some "a signed out_dtype requires out_bias = -2**(bit_width)/2"
  | badUnsignedBias _ _ => some "an unsigned out_dtype requires out_bias = 0"
  | notATensor _ _ => some "type relation deferred until operand types are known"
  | arityMismatch _ _ => none
  | unexpectedOp _ => none

/-- The diagnostic for a cause: a note when the call is deferred, an error otherwise. -/
def toDiagnostic (e : TypeError) : Diagnostic where
  severity := if e.isDeferred then .note else .error
  message := "MultiThreshold: " ++ e.message
  notes := e.hint?.toList

@[simp] theorem isError_toDiagnostic (e : TypeError) :
    e.toDiagnostic.isError = !e.isDeferred := by
  simp only [toDiagnostic, Diagnostic.isError]
  cases e.isDeferred <;> rfl

@[simp] theorem severity_toDiagnostic_eq_note_iff {e : TypeError} :
    e.toDiagnostic.severity = .note ↔ e.isDeferred = true := by
  simp only [toDiagnostic]
  cases e.isDeferred <;> simp

end TypeError

end Thresholding
