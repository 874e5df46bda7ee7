import Thresholding.Graph.Basic

/-!
# Thresholding.Evaluation.Error

**Why an evaluation fails**, with the message for each cause.

Shapes stand in these messages as lists of integers: next to the dimensions that an operand
was declared with there are lengths that were counted.
-/

namespace Thresholding

/-- Why an evaluation fails. -/
inductive EvalError
  /-- The number of values is not that of the shape, or a shape is not the one needed. -/
  | shapeMismatch (expected found : List Int)
  /-- The thresholds are no table of rows. -/
  | badThresholdsShape (shape : Shape)
  /-- The thresholds have more entries than can be addressed. -/
  | thresholdsTooLarge (shape : Shape)
  /-- A channel of the data has more elements than can be counted. -/
  | dataTooLarge (shape : Shape)
  /-- A node has more elements than can be counted. -/
  | elementCountOverflow (id : NodeId) (shape : Shape)
  /-- A call has fewer operands than its operator needs. -/
  | missingOperand (index : Nat)
  /-- A source was handed to a backend. -/
  | sourceNode
  /-- A backend of the host refuses an argument, in its own words. -/
  | invalidArgument (message : String)
  /-- A name without a node. -/
  | unknownNode (id : NodeId)
  /-- A node without a tensor type. -/
  | untyped (id : NodeId)
  /-- A node without values. -/
  | missingFeed (id : NodeId)
  deriving Repr, DecidableEq

namespace EvalError

/-- What is wrong with an argument, for the causes that are a wrong argument. -/
def argumentMessage? : EvalError → Option String
  | badThresholdsShape shape => some ("thresholds must be [C, T], got " ++ shape.text)
  | thresholdsTooLarge shape => some ("thresholds " ++ shape.text ++ " are too large to evaluate")
  | dataTooLarge shape => some ("data " ++ shape.text ++ " is too large to evaluate")
  | elementCountOverflow id shape =>
    some ("node " ++ NodeId.text id ++ ": element count of " ++ shape.text ++ " overflows")
  | missingOperand index => some s!"expected input at index {index}"
  | sourceNode => some "Var/Constant nodes should be pre-materialized"
  | invalidArgument message => some message
  | shapeMismatch _ _ | unknownNode _ | untyped _ | missingFeed _ => none

/-- The message for a cause. -/
def message (e : EvalError) : String :=
  match e with
  | shapeMismatch expected found =>
    "Shape mismatch: expected " ++ bracketed expected ++ ", got " ++ bracketed found
  | unknownNode id => "Unknown node " ++ NodeId.text id
  | untyped id => "Node " ++ NodeId.text id ++ " has no tensor type; type-check the graph first"
  | missingFeed id => "No data for node " ++ NodeId.text id
  | _ => "Invalid argument: " ++ e.argumentMessage?.getD ""

end EvalError

/-- The dimensions of a shape as integers. -/
def Shape.extents (s : Shape) : List Int := s.dims.map Int64.toInt

end Thresholding
