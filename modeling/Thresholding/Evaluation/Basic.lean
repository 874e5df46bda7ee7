import Thresholding.Evaluation.Backend
import Thresholding.Graph.Order

/-!
# Thresholding.Evaluation.Basic

**Evaluating a graph**: the values of one output, from the values of its free inputs.

Design points:

* The nodes are evaluated in the order of `Graph.order`, each once. A free input takes its
  values from the feeds, a constant from the graph, a call from the backend.
* Every node on the way needs a tensor type, and as many values as its shape has elements,
  those that a backend answered with included.
* The first failure ends the evaluation. What the backend was asked until then has happened:
  the backend's state comes with the answer in either case.
* On a cycle a call is reached before one of its inputs has values, which is a failure.
-/

namespace Thresholding

/-- The values of free inputs, by name. -/
abbrev Feeds : Type := NodeId → Option Buffer

/-- The feeds that a list of assignments makes; the last for a name counts. -/
def Feeds.ofList (assignments : List (NodeId × Buffer)) : Feeds := fun id =>
  assignments.reverse.lookup id

/-- The values of the nodes evaluated so far, latest first. -/
abbrev Buffers : Type := List (NodeId × Buffer)

namespace Graph

/-- A node with its tensor type. -/
def typedNode (g : Graph) (id : NodeId) : Except EvalError (Node × TensorType) :=
  match g.node? id with
  | none => .error (.unknownNode id)
  | some node =>
    match node.type with
    | .tensor type => .ok (node, type)
    | _ => .error (.untyped id)

/-- An input of a call as an operand. -/
def operand (g : Graph) (buffers : Buffers) (input : NodeId) : Except EvalError Operand :=
  match buffers.lookup input with
  | none => .error (.missingFeed input)
  | some values =>
    match g.typedNode input with
    | .error e => .error e
    | .ok (_, type) => .ok { values, shape := type.shape, elementType := type.elementType }

/-- The values that are given for a node, or a failure if there are none. -/
def given (id : NodeId) : Option Buffer → Except EvalError Buffer
  | some values => .ok values
  | none => .error (.missingFeed id)

/-- A node has as many values as its type has elements. -/
def checkLength (id : NodeId) (type : TensorType) (values : Buffer) : Except EvalError Buffer :=
  match type.shape.elementCount? with
  | none => .error (.elementCountOverflow id type.shape)
  | some n =>
    if (values.length : Int) = n.toInt then .ok values
    else .error (.shapeMismatch type.shape.extents [values.length])

variable {σ : Type}

/-- The values of a node of a given type before they are counted. -/
def nodeValues (g : Graph) (backend : Backend σ) (feeds : Feeds) (buffers : Buffers) (id : NodeId)
    (node : Node) (type : TensorType) (s : σ) : Except EvalError Buffer × σ :=
  match node.op with
  | .var _ => (given id (feeds id), s)
  | .constant => (given id node.payload?, s)
  | .multiThreshold _ =>
    match node.inputs.mapM (g.operand buffers) with
    | .error e => (.error e, s)
    | .ok operands => backend { op := node.op, operands, result := type } s

/-- The values of a node, those of its inputs being known. -/
def evaluateNode (g : Graph) (backend : Backend σ) (feeds : Feeds) (buffers : Buffers)
    (id : NodeId) (s : σ) : Except EvalError Buffer × σ :=
  match g.typedNode id with
  | .error e => (.error e, s)
  | .ok (node, type) =>
    match g.nodeValues backend feeds buffers id node type s with
    | (.error e, s) => (.error e, s)
    | (.ok values, s) => (checkLength id type values, s)

/-- The values of nodes from left to right, each with those before it at hand. -/
def evaluateAll (g : Graph) (backend : Backend σ) (feeds : Feeds) :
    List NodeId → Buffers → σ → Except EvalError Buffers × σ
  | [], buffers, s => (.ok buffers, s)
  | id :: ids, buffers, s =>
    match g.evaluateNode backend feeds buffers id s with
    | (.error e, s) => (.error e, s)
    | (.ok values, s) => evaluateAll g backend feeds ids ((id, values) :: buffers) s

/-- The values of an output. -/
def evaluate (g : Graph) (backend : Backend σ) (feeds : Feeds) (output : NodeId) (s : σ) :
    Except EvalError Buffer × σ :=
  match g.evaluateAll backend feeds (g.order [output]) [] s with
  | (.error e, s) => (.error e, s)
  | (.ok buffers, s) =>
    match buffers.lookup output with
    | some values => (.ok values, s)
    | none => (.error (.unknownNode output), s)

end Graph

end Thresholding
