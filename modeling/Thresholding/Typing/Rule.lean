import Thresholding.Graph.Op
import Thresholding.Typing.Error

/-!
# Thresholding.Typing.Rule

The **typing rule** of the thresholding operator.

The result has the type of the data. What the rule checks is that the descriptor, the
thresholds and the bias tell of the same domain: the thresholds have as many entries along
their last axis as the domain has levels, and the bias is the one that suits the domain.

Design points:

* The conditions are checked in a fixed order (the operands, the descriptor, the thresholds,
  the bias) and the first that fails is reported.
* The bias is compared as a number, so either zero suits an unsigned domain.
* A host types a call in a list of *slots*, the operands first and the result last
  (`thresholdRelation`). The slots are a state that outlives a failure, so the relation
  answers with the slots as they are afterwards.
-/

namespace Thresholding

/-- The tensor type of an operand. -/
def operandType (operand : ThresholdOperand) (found : ExprType) : Except TypeError TensorType :=
  match found with
  | .tensor type => .ok type
  | _ => .error (.notATensor operand found)

/-- The last dimension of the thresholds is the number of levels of a domain. -/
def checkThresholds (thresholds : TensorType) (attrs : ThresholdAttrs) (domain : IntDomain) :
    Except TypeError Unit :=
  match thresholds.shape.last? with
  | none => .error .emptyShape
  | some last =>
    if last.toInt = domain.levels then .ok ()
    else .error (.thresholdCountMismatch attrs.outDtype domain.bitWidth domain.levels last)

/-- The bias is the one that suits a domain. -/
def checkBias (attrs : ThresholdAttrs) (domain : IntDomain) : Except TypeError Unit :=
  if attrs.outBias.numEq domain.expectedBias then .ok ()
  else if domain.signed then
    .error (.badSignedBias attrs.outDtype domain.expectedBias attrs.outBias)
  else .error (.badUnsignedBias attrs.outDtype attrs.outBias)

/-- The type of a thresholding call on operands of the given types. -/
def inferType (data thresholds : ExprType) (attrs : ThresholdAttrs) (config : Config) :
    Except TypeError TensorType := do
  let data ← operandType .data data
  let thresholds ← operandType .thresholds thresholds
  let domain ← (IntDomain.parse config attrs.outDtype).mapError .badDescriptor
  checkThresholds thresholds attrs domain
  checkBias attrs domain
  return data

/-! ### Slots -/

/-- A typing relation: it is given the slots of a call, the operands' types and the
result's, and fills in the result. The answer comes with the slots as they are then. -/
abbrev Relation : Type := Op → Config → List ExprType → Except TypeError Unit × List ExprType

/-- The number of slots of a thresholding call: two operands and the result. -/
def thresholdSlots : Nat := 3

/-- The typing relation of the thresholding operator. A failure leaves the slots alone. -/
def thresholdRelation : Relation
  | .multiThreshold attrs, config, [data, thresholds, result] =>
    match inferType data thresholds attrs config with
    | .ok type => (.ok (), [data, thresholds, .tensor type])
    | .error e => (.error e, [data, thresholds, result])
  | .multiThreshold _, _, slots => (.error (.arityMismatch thresholdSlots slots.length), slots)
  | _, _, slots => (.error (.unexpectedOp Op.multiThresholdName), slots)

end Thresholding
