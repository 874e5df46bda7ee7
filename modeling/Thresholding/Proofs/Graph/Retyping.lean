import Thresholding.Graph.Basic

/-!
# Thresholding.Proofs.Graph.Retyping

**What typing may change in a graph**, and what it leaves alone.

A typing pass records types on calls. `Retypes` says that nothing else is different, and
`Refines` that no tensor type was lost on the way. Both are stated about what can be looked
up, so a proof about one recorded type does not go into the array of nodes.
-/

namespace Thresholding

namespace Graph

/-! ### Calls and their types -/

theorem mem_calls {g : Graph} {id : NodeId} :
    id ∈ g.calls ↔ ∃ node, g.node? id = some node ∧ node.op.isSource = false := by
  unfold calls
  rw [List.mem_filter, List.mem_range]
  constructor
  · rintro ⟨-, h⟩
    rw [Option.any_eq_true] at h
    obtain ⟨node, hnode, hcall⟩ := h
    exact ⟨node, hnode, by simpa using hcall⟩
  · rintro ⟨node, hnode, hcall⟩
    refine ⟨?_, by simp [hnode, hcall]⟩
    rcases Nat.lt_or_ge id g.size with hlt | hge
    · exact hlt
    · rw [node?_eq_none_iff.2 hge] at hnode
      exact absurd hnode (by simp)

/-- The calls are listed in the order of their names. -/
theorem calls_pairwise_lt (g : Graph) : g.calls.Pairwise (· < ·) :=
  List.pairwise_lt_range.filter _

theorem calls_nodup (g : Graph) : g.calls.Nodup :=
  g.calls_pairwise_lt.imp fun h => Nat.ne_of_lt h

/-- The calls that stand before a call in the list are those with smaller names. -/
theorem mem_take_calls {g : Graph} {k : Nat} {id : NodeId} (h : g.calls[k]? = some id)
    {other : NodeId} : other ∈ g.calls.take k ↔ other ∈ g.calls ∧ other < id := by
  obtain ⟨hk, hget⟩ := List.getElem?_eq_some_iff.1 h
  have hsplit : g.calls = g.calls.take k ++ id :: g.calls.drop (k + 1) := by
    rw [← hget, ← List.drop_eq_getElem_cons hk, List.take_append_drop]
  have hsorted := g.calls_pairwise_lt
  rw [hsplit, List.pairwise_append] at hsorted
  obtain ⟨-, hafter, hacross⟩ := hsorted
  constructor
  · exact fun hmem => ⟨List.mem_of_mem_take hmem, hacross other hmem id List.mem_cons_self⟩
  · rintro ⟨hmem, hlt⟩
    rw [hsplit, List.mem_append, List.mem_cons] at hmem
    rcases hmem with hmem | rfl | hmem
    · exact hmem
    · exact absurd hlt (Nat.lt_irrefl _)
    · exact absurd ((List.pairwise_cons.1 hafter).1 other hmem) (Nat.lt_asymm hlt)

theorem mem_take_succ_calls {g : Graph} {k : Nat} {id : NodeId} (h : g.calls[k]? = some id)
    {other : NodeId} : other ∈ g.calls.take (k + 1) ↔ other ∈ g.calls.take k ∨ other = id := by
  rw [List.take_add_one, h, List.mem_append, Option.mem_toList, Option.some.injEq, eq_comm]

theorem typeOf_eq {g : Graph} {id : NodeId} {node : Node} (h : g.node? id = some node) :
    g.typeOf id = node.type := by
  rw [typeOf, h]

theorem inputs_eq {g : Graph} {id : NodeId} {node : Node} (h : g.node? id = some node) :
    g.inputs id = node.inputs := by
  rw [inputs, h]

/-- A graph is what can be looked up in it. -/
theorem ext_node? {g g' : Graph} (h : ∀ id, g'.node? id = g.node? id) : g' = g := by
  have hnodes : g'.nodes = g.nodes := Array.ext_getElem? h
  cases g; cases g'; exact congrArg Graph.mk hnodes

/-- A name with a tensor type is the name of a node. -/
theorem exists_node_of_typeOf {g : Graph} {id : NodeId} {t : TensorType}
    (h : g.typeOf id = .tensor t) : ∃ node, g.node? id = some node ∧ node.type = .tensor t := by
  unfold typeOf at h
  split at h
  · next node hnode => exact ⟨node, hnode, h⟩
  · exact absurd h (by simp)

/-! ### Recording types -/

theorem typeOf_setType {g : Graph} {id : NodeId} {type : ExprType} (other : NodeId)
    (h : id ∈ g.calls) :
    (g.setType id type).2.typeOf other = if id = other then type else g.typeOf other := by
  obtain ⟨node, hnode, -⟩ := mem_calls.1 h
  unfold typeOf
  rw [node?_setType]
  by_cases heq : id = other
  · subst heq
    rw [if_pos rfl, if_pos rfl, hnode]
    rfl
  · rw [if_neg heq, if_neg heq]

/-- Two graphs differ at most in types, which may be those of sources. -/
def SameButTypes (g g' : Graph) : Prop :=
  ∀ id, g'.node? id = (g.node? id).map fun node => { node with type := g'.typeOf id }

theorem SameButTypes.size_eq {g g' : Graph} (h : SameButTypes g g') : g'.size = g.size := by
  have hnone : ∀ id, g'.size ≤ id ↔ g.size ≤ id := fun id => by
    rw [← node?_eq_none_iff, ← node?_eq_none_iff, h id, Option.map_eq_none_iff]
  exact Nat.le_antisymm ((hnone _).2 (Nat.le_refl _)) ((hnone _).1 (Nat.le_refl _))

/-- Recording a type changes types only, whatever the name. -/
theorem sameButTypes_setType (g : Graph) (id : NodeId) (type : ExprType) :
    SameButTypes g (g.setType id type).2 := by
  intro other
  cases hnode : g.node? other with
  | none => simp [node?_setType, hnode]
  | some node =>
      by_cases heq : id = other
      · simp [typeOf, node?_setType, hnode, heq]
      · simp [typeOf, node?_setType, hnode, heq]

/-- A name without a node has no type to record. -/
theorem setType_of_size_le {g : Graph} {id : NodeId} (h : g.size ≤ id) (type : ExprType) :
    g.setType id type = (false, g) := by
  have hgraph : (g.setType id type).2 = g := by
    refine ext_node? fun other => ?_
    rw [node?_setType]
    by_cases heq : id = other
    · rw [if_pos heq, ← heq, node?_eq_none_iff.2 h]
      rfl
    · rw [if_neg heq]
  have hanswer : (g.setType id type).1 = false := decide_eq_false (Nat.not_lt.2 h)
  exact Prod.ext hanswer hgraph

/-! ### Retyping -/

/-- Two graphs differ at most in the types of their calls. -/
def Retypes (g g' : Graph) : Prop :=
  ∀ id, g'.node? id = (g.node? id).map fun node =>
    if node.op.isSource then node else { node with type := g'.typeOf id }

theorem Retypes.source {g g' : Graph} (h : Retypes g g') {id : NodeId} {node : Node}
    (hnode : g.node? id = some node) (hsource : node.op.isSource = true) :
    g'.node? id = some node := by
  rw [h id, hnode, Option.map_some, if_pos hsource]

theorem Retypes.call {g g' : Graph} (h : Retypes g g') {id : NodeId} {node : Node}
    (hnode : g.node? id = some node) (hcall : node.op.isSource = false) :
    g'.node? id = some { node with type := g'.typeOf id } := by
  rw [h id, hnode, Option.map_some, if_neg (by simp [hcall])]

/-- Up to its type, every node is as before. -/
theorem Retypes.node {g g' : Graph} (h : Retypes g g') {id : NodeId} {node : Node}
    (hnode : g.node? id = some node) : g'.node? id = some { node with type := g'.typeOf id } := by
  cases hsource : node.op.isSource with
  | true =>
      have hnode' := h.source hnode hsource
      rw [hnode', typeOf_eq hnode']
  | false => exact h.call hnode hsource

theorem Retypes.node?_eq_none {g g' : Graph} (h : Retypes g g') {id : NodeId} :
    g'.node? id = none ↔ g.node? id = none := by
  rw [h id, Option.map_eq_none_iff]

theorem Retypes.refl (g : Graph) : Retypes g g := by
  intro id
  cases hnode : g.node? id with
  | none => rfl
  | some node =>
      rw [Option.map_some, typeOf_eq hnode]
      split <;> rfl

theorem Retypes.symm {g g' : Graph} (h : Retypes g g') : Retypes g' g := by
  intro id
  cases hnode : g.node? id with
  | none => rw [h.node?_eq_none.2 hnode]; rfl
  | some node =>
      rw [h.node hnode, Option.map_some, typeOf_eq hnode]
      cases hsource : node.op.isSource with
      | true =>
          have hnode' := h.source hnode hsource
          rw [typeOf_eq hnode']
          simp
      | false => simp

theorem Retypes.trans {g g' g'' : Graph} (h : Retypes g g') (h' : Retypes g' g'') :
    Retypes g g'' := by
  intro id
  cases hnode : g.node? id with
  | none => exact h'.node?_eq_none.2 (h.node?_eq_none.2 hnode)
  | some node =>
      rw [Option.map_some]
      split
      · next hsource => exact h'.source (h.source hnode hsource) hsource
      · next hcall =>
          rw [Bool.not_eq_true] at hcall
          have hnode'' := h'.call (h.call hnode hcall) hcall
          exact hnode''

theorem retypes_setType {g : Graph} {id : NodeId} {type : ExprType} (h : id ∈ g.calls) :
    Retypes g (g.setType id type).2 := by
  intro other
  rw [typeOf_setType other h, node?_setType]
  obtain ⟨node, hnode, hcall⟩ := mem_calls.1 h
  split
  · next heq =>
      subst heq
      rw [hnode, Option.map_some, Option.map_some, if_neg (by simp [hcall])]
  · exact Retypes.refl g other

theorem Retypes.sameButTypes {g g' : Graph} (h : Retypes g g') : SameButTypes g g' := by
  intro id
  cases hnode : g.node? id with
  | none => exact h.node?_eq_none.2 hnode
  | some node => exact h.node hnode

theorem Retypes.size_eq {g g' : Graph} (h : Retypes g g') : g'.size = g.size :=
  h.sameButTypes.size_eq

/-- Retyping keeps the calls. -/
theorem Retypes.calls_eq {g g' : Graph} (h : Retypes g g') : g'.calls = g.calls := by
  unfold calls
  rw [h.size_eq]
  refine List.filter_congr fun id _ => ?_
  cases hnode : g.node? id with
  | none => rw [h.node?_eq_none.2 hnode]
  | some node => rw [h.node hnode]; rfl

theorem Retypes.inputs_eq {g g' : Graph} (h : Retypes g g') (id : NodeId) :
    g'.inputs id = g.inputs id := by
  unfold inputs
  cases hnode : g.node? id with
  | none => rw [h.node?_eq_none.2 hnode]
  | some node => rw [h.node hnode]

/-- Sources keep their types, and names without a node have none. -/
theorem Retypes.typeOf_of_notMem {g g' : Graph} (h : Retypes g g') {id : NodeId}
    (hid : id ∉ g.calls) : g'.typeOf id = g.typeOf id := by
  cases hnode : g.node? id with
  | none => rw [typeOf, typeOf, h.node?_eq_none.2 hnode, hnode]
  | some node =>
      cases hsource : node.op.isSource with
      | true => rw [typeOf_eq hnode, typeOf_eq (h.source hnode hsource)]
      | false => exact absurd (mem_calls.2 ⟨node, hnode, hsource⟩) hid

/-- Retyped graphs with the same types are the same. -/
theorem Retypes.eq_of_typeOf {g g' : Graph} (h : Retypes g g')
    (htypes : ∀ id, g'.typeOf id = g.typeOf id) : g' = g := by
  refine ext_node? fun id => ?_
  cases hnode : g.node? id with
  | none => exact h.node?_eq_none.2 hnode
  | some node => rw [h.node hnode, htypes, typeOf_eq hnode]

/-! ### Refinement -/

/-- A graph is retyped and no tensor type is lost. -/
structure Refines (g g' : Graph) : Prop where
  /-- Only types of calls differ. -/
  retypes : Retypes g g'
  /-- A tensor type stays what it is. -/
  keeps : ∀ id t, g.typeOf id = .tensor t → g'.typeOf id = .tensor t

theorem Refines.refl (g : Graph) : Refines g g := ⟨Retypes.refl g, fun _ _ h => h⟩

theorem Refines.trans {g g' g'' : Graph} (h : Refines g g') (h' : Refines g' g'') :
    Refines g g'' :=
  ⟨h.retypes.trans h'.retypes, fun id t ht => h'.keeps id t (h.keeps id t ht)⟩

end Graph

end Thresholding
