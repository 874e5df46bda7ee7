import Thresholding.Graph.Op
import Thresholding.Tensor.ExprType

/-!
# Thresholding.Graph.Basic

**Expression graphs.** A graph is built by adding nodes, and a node is named by its
position.

Design points:

* A graph is what typing, ordering and evaluating are told about. How it is stored while a host
  works on it is another matter (`Thresholding.Arena`).
* Adding a node never fails and nothing about it is checked. An input may name a node that
  is added later, or one that never is.
* Calls start without a type. Typing is a later pass over the graph.
* The values of a constant are kept on its node. Only `addConstant` gives a node values: a
  call that is added with a constant as its operator has none.
* An operation that changes the graph returns its answer with the new graph.
-/

namespace Thresholding

/-- The name of a node: its position in the graph, which may have no such node. -/
abbrev NodeId := Nat

/-- The text of a node's name. -/
def NodeId.text (id : NodeId) : String := s!"%{id}"

/-- The values of a tensor, flat. -/
abbrev Buffer := List Single

/-- A node of a graph. -/
structure Node where
  /-- What the node computes. -/
  op : Op
  /-- The nodes it computes it from. -/
  inputs : List NodeId
  /-- Its type, incomplete until it is inferred. -/
  type : ExprType
  /-- The values of a constant. -/
  payload? : Option Buffer
  deriving Repr, DecidableEq

/-- An expression graph. -/
structure Graph where
  /-- The nodes in the order they were added. -/
  nodes : Array Node
  deriving Repr, DecidableEq

namespace Graph

/-- The graph without nodes. -/
def empty : Graph := ⟨#[]⟩

instance : Inhabited Graph := ⟨empty⟩

/-- The number of nodes, and so the name that the next one gets. -/
def size (g : Graph) : Nat := g.nodes.size

/-! ### Looking up -/

/-- The node of a given name. -/
def node? (g : Graph) (id : NodeId) : Option Node := g.nodes[id]?

/-- The inputs of a node; a name without a node has none. -/
def inputs (g : Graph) (id : NodeId) : List NodeId :=
  match g.node? id with
  | some node => node.inputs
  | none => []

/-- The type of a node, incomplete for a name without a node. -/
def typeOf (g : Graph) (id : NodeId) : ExprType :=
  match g.node? id with
  | some node => node.type
  | none => .incomplete

/-- The values that the graph holds for a node. -/
def payload? (g : Graph) (id : NodeId) : Option Buffer := (g.node? id).bind (·.payload?)

/-- The names of the call nodes, in order. -/
def calls (g : Graph) : List NodeId :=
  (List.range g.size).filter fun id => (g.node? id).any fun node => !node.op.isSource

theorem node?_eq_none_iff {g : Graph} {id : NodeId} : g.node? id = none ↔ g.size ≤ id := by
  simp [node?, size]

/-! ### Building -/

/-- Add a node and name it. -/
def add (g : Graph) (node : Node) : NodeId × Graph := (g.size, ⟨g.nodes.push node⟩)

/-- Add a free input of a known type. -/
def addVar (g : Graph) (name : String) (type : ExprType) : NodeId × Graph :=
  g.add { op := .var name, inputs := [], type, payload? := none }

/-- Add a constant of a known type with its values. -/
def addConstant (g : Graph) (values : Buffer) (type : ExprType) : NodeId × Graph :=
  g.add { op := .constant, inputs := [], type, payload? := some values }

/-- Add a node that is yet to be typed. -/
def addCall (g : Graph) (op : Op) (inputs : List NodeId) : NodeId × Graph :=
  g.add { op, inputs, type := .incomplete, payload? := none }

/-- Add a call of the thresholding operator. -/
def addMultiThreshold (g : Graph) (data thresholds : NodeId) (attrs : ThresholdAttrs) :
    NodeId × Graph :=
  g.addCall (.multiThreshold attrs) [data, thresholds]

/-- Record the type of a node; the answer tells whether there is such a node. -/
def setType (g : Graph) (id : NodeId) (type : ExprType) : Bool × Graph :=
  (decide (id < g.size), ⟨g.nodes.modify id fun node => { node with type }⟩)

@[simp] theorem size_empty : empty.size = 0 := rfl

@[simp] theorem size_add (g : Graph) (node : Node) : (g.add node).2.size = g.size + 1 := by
  simp [add, size]

@[simp] theorem size_setType (g : Graph) (id : NodeId) (type : ExprType) :
    (g.setType id type).2.size = g.size := by
  simp [setType, size]

/-- After a node is added, its name is its own and every other name is as before. -/
theorem node?_add (g : Graph) (node : Node) (id : NodeId) :
    (g.add node).2.node? id = if id = g.size then some node else g.node? id :=
  Array.getElem?_push

/-- Recording a type changes the type of the one node, and nothing else. -/
theorem node?_setType (g : Graph) (id other : NodeId) (type : ExprType) :
    (g.setType id type).2.node? other =
      if id = other then (g.node? other).map fun node => { node with type } else g.node? other := by
  simp [setType, node?, Array.getElem?_modify]

end Graph

end Thresholding
