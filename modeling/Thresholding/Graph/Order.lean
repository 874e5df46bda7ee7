import Thresholding.Graph.Basic

/-!
# Thresholding.Graph.Order

The **evaluation order** of a graph: from the outputs that are asked for, a depth-first
traversal that lists a node after its inputs.

Design points:

* A name is marked when the traversal reaches it and listed when its inputs are done. On a
  cycle the marked names stop the traversal, so the order exists for every graph.
* A name without a node is listed like any other: it has no inputs.
* Each level of the recursion but the last marks one more node that exists, so one level
  more than there are nodes is always enough.
-/

namespace Thresholding

/-- How far a traversal has come. -/
structure Traversal where
  /-- The names it has reached. -/
  marked : List NodeId := []
  /-- The names whose inputs are done, in order. -/
  order : List NodeId := []
  deriving Repr, DecidableEq

namespace Graph

/-- Visit a name: mark it, visit its inputs, list it. A marked name is left alone. The
first argument bounds the depth. -/
def visit (g : Graph) : Nat → NodeId → Traversal → Traversal
  | 0, _, t => t
  | depth + 1, id, t =>
    if id ∈ t.marked then t
    else
      let inner := (g.inputs id).foldl (fun t input => visit g depth input t)
        { t with marked := id :: t.marked }
      { inner with order := inner.order ++ [id] }

/-- Visit names from left to right. -/
def visitAll (g : Graph) (ids : List NodeId) (t : Traversal) : Traversal :=
  ids.foldl (fun t id => g.visit (g.size + 1) id t) t

/-- The evaluation order for the given outputs. -/
def order (g : Graph) (outputs : List NodeId) : List NodeId := (g.visitAll outputs {}).order

end Graph

end Thresholding
