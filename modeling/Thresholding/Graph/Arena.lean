import Thresholding.Graph.Basic

/-!
# Thresholding.Graph.Arena

**Arenas**: how a graph is stored while a host works on it.

Design points:

* A node is stored with its name. Names are handed out by a counter and nodes are stored in the
  order of their names, so a node is found by a binary search and not by its position.
* The values of constants are kept apart from the nodes, by name.
* Nothing in the type makes the counter, the stored names and the values agree. What is done to
  an arena has to keep them in step.
* `Arena.toGraph` is the graph that an arena stands for. A graph knows neither counter nor stored
  names, and what is said of typing and of evaluation is said of graphs.
-/

namespace Thresholding

/-- A node as it is stored. -/
structure StoredNode where
  /-- Its name. -/
  id : NodeId
  /-- What it computes. -/
  op : Op
  /-- The nodes it computes it from. -/
  inputs : List NodeId
  /-- Its type, incomplete until it is inferred. -/
  type : ExprType
  deriving Repr, DecidableEq

/-- What a graph is stored in. -/
structure Arena where
  /-- The nodes in the order they were added. -/
  nodes : Array StoredNode
  /-- The name that the next node gets. -/
  nextId : NodeId
  /-- The values of constants, by name. -/
  payloads : NodeId → Option Buffer

namespace Arena

/-- The arena without nodes. -/
def empty : Arena := { nodes := #[], nextId := 0, payloads := fun _ => none }

instance : Inhabited Arena := ⟨empty⟩

/-- The number of nodes. -/
def size (a : Arena) : Nat := a.nodes.size

/-! ### Looking up -/

/-- Where a binary search for a name ends, among `size` nodes from `first` on. Of more than one
node it takes the half in which the name can be. -/
def bisect (nodes : Array StoredNode) (id : NodeId) (first size : Nat) (hsize : 0 < size)
    (hbound : first + size ≤ nodes.size) : Fin nodes.size :=
  if 1 < size then
    have hmiddle : first + size / 2 < nodes.size := by omega
    if id < nodes[first + size / 2].id then
      bisect nodes id first (size - size / 2) (by omega) (by omega)
    else bisect nodes id (first + size / 2) (size - size / 2) (by omega) (by omega)
  else ⟨first, by omega⟩
termination_by size

/-- The place of the node of a given name. -/
def indexOf? (a : Arena) (id : NodeId) : Option (Fin a.nodes.size) :=
  if hsize : 0 < a.nodes.size then
    let place := bisect a.nodes id 0 a.nodes.size hsize (by omega)
    if a.nodes[place].id = id then some place else none
  else none

/-- The node of a given name. -/
def node? (a : Arena) (id : NodeId) : Option StoredNode :=
  (a.indexOf? id).map fun place => a.nodes[place]

/-- The type of a node, incomplete for a name without a node. -/
def typeOf (a : Arena) (id : NodeId) : ExprType :=
  match a.node? id with
  | some node => node.type
  | none => .incomplete

/-- The values that are kept for a name. -/
def payload? (a : Arena) (id : NodeId) : Option Buffer := a.payloads id

/-- The names of the call nodes, in order. -/
def calls (a : Arena) : List NodeId :=
  (a.nodes.toList.filter fun node => !node.op.isSource).map (·.id)

/-! ### Building -/

/-- Store a node under the next name. -/
def add (a : Arena) (op : Op) (inputs : List NodeId) (type : ExprType) : NodeId × Arena :=
  (a.nextId, { a with
    nodes := a.nodes.push { id := a.nextId, op, inputs, type }
    nextId := a.nextId + 1 })

/-- Keep values for a name, in place of those that were kept before. -/
def setPayload (a : Arena) (id : NodeId) (values : Buffer) : Arena :=
  { a with payloads := fun other => if other = id then some values else a.payloads other }

/-- Add a free input of a known type. -/
def addVar (a : Arena) (name : String) (type : ExprType) : NodeId × Arena :=
  a.add (.var name) [] type

/-- Add a constant of a known type with its values. -/
def addConstant (a : Arena) (values : Buffer) (type : ExprType) : NodeId × Arena :=
  let (id, a) := a.add .constant [] type
  (id, a.setPayload id values)

/-- Add a node that is yet to be typed. -/
def addCall (a : Arena) (op : Op) (inputs : List NodeId) : NodeId × Arena :=
  a.add op inputs .incomplete

/-- Add a call of the thresholding operator. -/
def addMultiThreshold (a : Arena) (data thresholds : NodeId) (attrs : ThresholdAttrs) :
    NodeId × Arena :=
  a.addCall (.multiThreshold attrs) [data, thresholds]

/-- Record the type of a node; the answer tells whether there is such a node. -/
def setType (a : Arena) (id : NodeId) (type : ExprType) : Bool × Arena :=
  match a.indexOf? id with
  | some place =>
    (true, { a with nodes := a.nodes.modify place fun node => { node with type } })
  | none => (false, a)

/-! ### The graph of an arena -/

/-- The graph that an arena stands for. -/
def toGraph (a : Arena) : Graph where
  nodes := a.nodes.map fun node =>
    { op := node.op, inputs := node.inputs, type := node.type, payload? := a.payload? node.id }

end Arena

/-- A node as it is stored under a name. -/
def Node.stored (id : NodeId) (node : Node) : StoredNode :=
  { id, op := node.op, inputs := node.inputs, type := node.type }

/-- The arena that stores a graph: names are positions, and counted up to the number of nodes. -/
def Graph.toArena (g : Graph) : Arena where
  nodes := g.nodes.mapIdx Node.stored
  nextId := g.size
  payloads := g.payload?

end Thresholding
