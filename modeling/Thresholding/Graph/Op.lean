import Thresholding.Binary.Basic

/-!
# Thresholding.Graph.Op

The **operators of a graph**: two kinds of source and one kind of call.

A call carries its attributes as they were given. The descriptor among them is read when
the call is typed, and not before.
-/

namespace Thresholding

/-- The attributes of a thresholding call. -/
structure ThresholdAttrs where
  /-- The descriptor of the integer domain of the result. -/
  outDtype : String
  /-- What is added to the count of thresholds. -/
  outBias : Double
  deriving Repr, DecidableEq

/-- What a node of a graph computes. -/
inductive Op
  /-- A free input, whose values are given when the graph is evaluated. -/
  | var (name : String)
  /-- A constant, whose values the graph holds. -/
  | constant
  /-- A call of the thresholding operator on data and thresholds. -/
  | multiThreshold (attrs : ThresholdAttrs)
  deriving Repr, DecidableEq

namespace Op

/-- The name that the thresholding operator is registered under. -/
def multiThresholdName : String := "MultiThreshold"

/-- The name under which an operator is looked up; sources have none. -/
def name? : Op → Option String
  | var _ => none
  | constant => none
  | multiThreshold _ => some multiThresholdName

/-- Whether an operator is a source. -/
def isSource : Op → Bool
  | var _ => true
  | constant => true
  | multiThreshold _ => false

/-- Whether two operators agree, biases being compared as numbers: a call whose bias is
not a number agrees with no call, itself included. -/
def agrees : Op → Op → Bool
  | var a, var b => a == b
  | constant, constant => true
  | multiThreshold a, multiThreshold b => a.outDtype == b.outDtype && a.outBias.numEq b.outBias
  | _, _ => false

end Op

end Thresholding
