import Thresholding.Proofs.Graph.Retyping
import Thresholding.Proofs.Graph.Traversal

/-!
# Thresholding.Proofs.Graph.Adding

**Adding a node**: what is new under its name, and that everything else is as before.
-/

namespace Thresholding

namespace Graph

variable {g g' : Graph} {node : Node} {id : NodeId}

@[simp] theorem node?_add_self (g : Graph) (node : Node) :
    (g.add node).2.node? g.size = some node := by
  simp [node?_add]

theorem node?_add_of_ne (h : id ≠ g.size) : (g.add node).2.node? id = g.node? id := by
  simp [node?_add, h]

theorem typeOf_add_of_ne (h : id ≠ g.size) : (g.add node).2.typeOf id = g.typeOf id := by
  rw [typeOf, typeOf, node?_add_of_ne h]

theorem inputs_add_of_ne (h : id ≠ g.size) : (g.add node).2.inputs id = g.inputs id := by
  rw [inputs, inputs, node?_add_of_ne h]

/-- A call is a call of the graph before, or it is the new node. -/
theorem mem_calls_add : id ∈ (g.add node).2.calls ↔
    id ≠ g.size ∧ id ∈ g.calls ∨ id = g.size ∧ node.op.isSource = false := by
  by_cases h : id = g.size
  · subst h
    simp [mem_calls]
  · simp [mem_calls, node?_add_of_ne h, h]

theorem Retypes.add (h : Retypes g g') (node : Node) :
    Retypes (g.add node).2 (g'.add node).2 := by
  intro id
  by_cases hid : id = g.size
  · subst hid
    have hself : (g'.add node).2.node? g.size = some node := by
      rw [← h.size_eq]
      exact node?_add_self g' node
    rw [hself, node?_add_self, Option.map_some, typeOf_eq hself]
    simp
  · have hid' : id ≠ g'.size := h.size_eq.symm ▸ hid
    rw [node?_add_of_ne hid, node?_add_of_ne hid', typeOf_add_of_ne hid']
    exact h id

theorem InputsFirst.add (h : g.InputsFirst) (hnode : ∀ input ∈ node.inputs, input < g.size) :
    (g.add node).2.InputsFirst := by
  intro id hlt input hinput
  rw [size_add] at hlt
  by_cases hid : id = g.size
  · subst hid
    rw [inputs_eq (node?_add_self g node)] at hinput
    exact hnode input hinput
  · rw [inputs_add_of_ne hid] at hinput
    exact h id (by omega) input hinput

end Graph

end Thresholding
