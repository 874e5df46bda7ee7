import Thresholding.Proofs.Graph.Retyping
import Thresholding.Proofs.Graph.Traversal
import Thresholding.Proofs.Tensor.ElementCount

/-!
# Thresholding.Proofs.Evaluation.Sequence

**Evaluating names one after the other**: what a sequence of evaluations leaves at hand, for
any backend.

A sequence that succeeds has values for each of its names, so the output, which is in its own
evaluation order, has values when all have been evaluated (`lookup_output`). Values at hand
are as many as their node has elements, whatever the backend answered (`Counted.evaluateAll`),
so an operand is always what it is said to be.
-/

namespace Thresholding

namespace Graph

variable {σ : Type} {g : Graph} {backend : Backend σ} {feeds : Feeds} {ids ids' : List NodeId}
  {buffers buffers' : Buffers} {id : NodeId} {values : Buffer} {e : EvalError} {s s' : σ}

/-! ### Sequences -/

theorem evaluateAll_cons_of_ok (h : g.evaluateNode backend feeds buffers id s = (.ok values, s')) :
    g.evaluateAll backend feeds (id :: ids) buffers s =
      g.evaluateAll backend feeds ids ((id, values) :: buffers) s' := by
  rw [evaluateAll, h]

theorem evaluateAll_cons_of_error (h : g.evaluateNode backend feeds buffers id s = (.error e, s')) :
    g.evaluateAll backend feeds (id :: ids) buffers s = (.error e, s') := by
  rw [evaluateAll, h]

/-- A sequence goes on where it succeeded. -/
theorem evaluateAll_append_of_ok
    (h : g.evaluateAll backend feeds ids buffers s = (.ok buffers', s')) :
    g.evaluateAll backend feeds (ids ++ ids') buffers s =
      g.evaluateAll backend feeds ids' buffers' s' := by
  induction ids generalizing buffers s with
  | nil => cases h; rfl
  | cons id ids ih =>
      rw [List.cons_append]
      rcases hnode : g.evaluateNode backend feeds buffers id s with ⟨e | values, s₁⟩
      · rw [evaluateAll_cons_of_error hnode] at h
        exact absurd h (by simp)
      · rw [evaluateAll_cons_of_ok hnode] at h ⊢
        exact ih h

/-- A sequence ends where it failed. -/
theorem evaluateAll_append_of_error
    (h : g.evaluateAll backend feeds ids buffers s = (.error e, s')) :
    g.evaluateAll backend feeds (ids ++ ids') buffers s = (.error e, s') := by
  induction ids generalizing buffers s with
  | nil => exact absurd h (by simp [evaluateAll])
  | cons id ids ih =>
      rw [List.cons_append]
      rcases hnode : g.evaluateNode backend feeds buffers id s with ⟨e₁ | values, s₁⟩
      · rw [evaluateAll_cons_of_error hnode] at h ⊢
        exact h
      · rw [evaluateAll_cons_of_ok hnode] at h ⊢
        exact ih h

/-- When a sequence has succeeded, each of its names has values. -/
theorem exists_lookup_of_evaluateAll
    (h : g.evaluateAll backend feeds ids buffers s = (.ok buffers', s')) {x : NodeId}
    (hx : x ∈ ids ∨ ∃ values, buffers.lookup x = some values) :
    ∃ values, buffers'.lookup x = some values := by
  induction ids generalizing buffers s with
  | nil =>
      cases h
      exact hx.resolve_left List.not_mem_nil
  | cons id ids ih =>
      rcases hnode : g.evaluateNode backend feeds buffers id s with ⟨e | values, s₁⟩
      · rw [evaluateAll_cons_of_error hnode] at h
        exact absurd h (by simp)
      · rw [evaluateAll_cons_of_ok hnode] at h
        refine ih h ?_
        by_cases heq : x = id
        · exact Or.inr ⟨values, heq ▸ List.lookup_cons_self⟩
        · rw [List.lookup_cons, beq_false_of_ne heq]
          exact hx.imp_left fun hmem => (List.mem_cons.1 hmem).resolve_left heq

/-- **The output has values** when everything in its order has been evaluated. -/
theorem lookup_output {output : NodeId}
    (h : g.evaluateAll backend feeds (g.order [output]) [] s = (.ok buffers', s')) :
    ∃ values, buffers'.lookup output = some values :=
  exists_lookup_of_evaluateAll h (Or.inl (g.subset_order [output] List.mem_cons_self))

theorem evaluate_of_ok {output : NodeId}
    (h : g.evaluateAll backend feeds (g.order [output]) [] s = (.ok buffers', s'))
    (hvalues : buffers'.lookup output = some values) :
    g.evaluate backend feeds output s = (.ok values, s') := by
  rw [evaluate, h]
  dsimp only
  rw [hvalues]

theorem evaluate_of_error {output : NodeId}
    (h : g.evaluateAll backend feeds (g.order [output]) [] s = (.error e, s')) :
    g.evaluate backend feeds output s = (.error e, s') := by
  rw [evaluate, h]

/-- What has gone well when an output was evaluated: the other names of its order were, and then
the output itself. -/
theorem evaluate_inv {output : NodeId} (h : (g.evaluate backend feeds output s).1 = .ok values) :
    ∃ others buffers s₁ s₂, g.order [output] = others ++ [output] ∧ output ∉ others ∧
      g.evaluateAll backend feeds others [] s = (.ok buffers, s₁) ∧
      g.evaluateNode backend feeds buffers output s₁ = (.ok values, s₂) := by
  obtain ⟨others, horder, hothers, -⟩ := g.exists_order_eq output
  unfold evaluate at h
  rw [horder] at h
  rcases hrun : g.evaluateAll backend feeds others [] s with ⟨e | buffers, s₁⟩
  · rw [evaluateAll_append_of_error hrun] at h
    exact absurd h (by simp)
  · rw [evaluateAll_append_of_ok hrun] at h
    rcases hnode : g.evaluateNode backend feeds buffers output s₁ with ⟨e | found, s₂⟩
    · rw [evaluateAll_cons_of_error hnode] at h
      exact absurd h (by simp)
    · rw [evaluateAll_cons_of_ok hnode, evaluateAll] at h
      simp only [List.lookup_cons_self] at h
      cases h
      exact ⟨others, buffers, s₁, s₂, horder, hothers, hrun, hnode⟩

/-! ### Values at hand -/

theorem typedNode_eq_ok_iff {node : Node} {type : TensorType} :
    g.typedNode id = .ok (node, type) ↔ g.node? id = some node ∧ node.type = .tensor type := by
  constructor
  · intro h
    unfold typedNode at h
    split at h
    · exact absurd h (by simp)
    · next found hfound =>
        split at h
        · next t ht =>
            cases h
            exact ⟨hfound, ht⟩
        · exact absurd h (by simp)
  · intro h
    simp only [typedNode, h.1, h.2]

/-- What has gone well when a node was evaluated. -/
theorem evaluateNode_inv (h : g.evaluateNode backend feeds buffers id s = (.ok values, s')) :
    ∃ node type, g.typedNode id = .ok (node, type) ∧
      g.nodeValues backend feeds buffers id node type s = (.ok values, s') ∧
      type.shape.Holds values := by
  unfold evaluateNode at h
  split at h
  · exact absurd h (by simp)
  · next node type htyped =>
      split at h
      · exact absurd h (by simp)
      · next found s₁ hvalues =>
          obtain ⟨hchecked, rfl⟩ := Prod.mk.inj h
          obtain ⟨hholds, rfl⟩ := checkLength_eq_ok_iff.1 hchecked
          exact ⟨node, type, htyped, hvalues, hholds⟩

/-- Values at hand are as many as their node has elements. -/
def Counted (g : Graph) (buffers : Buffers) : Prop :=
  ∀ x values, buffers.lookup x = some values →
    ∃ type, g.typeOf x = .tensor type ∧ type.shape.Holds values

theorem counted_nil (g : Graph) : g.Counted [] := fun _ _ h => absurd h (by simp)

theorem Counted.cons (hbuffers : g.Counted buffers)
    (h : g.evaluateNode backend feeds buffers id s = (.ok values, s')) :
    g.Counted ((id, values) :: buffers) := by
  intro x found hlookup
  rw [List.lookup_cons] at hlookup
  by_cases heq : x = id
  · subst heq
    rw [beq_self_eq_true] at hlookup
    cases hlookup
    obtain ⟨node, type, htyped, -, hholds⟩ := evaluateNode_inv h
    obtain ⟨hnode, htype⟩ := typedNode_eq_ok_iff.1 htyped
    exact ⟨type, (typeOf_eq hnode).trans htype, hholds⟩
  · rw [beq_false_of_ne heq] at hlookup
    exact hbuffers x found hlookup

/-- **Every length is checked**: whatever the backend, what is evaluated is counted. -/
theorem Counted.evaluateAll (hbuffers : g.Counted buffers)
    (h : g.evaluateAll backend feeds ids buffers s = (.ok buffers', s')) : g.Counted buffers' := by
  induction ids generalizing buffers s with
  | nil => cases h; exact hbuffers
  | cons id ids ih =>
      rcases hnode : g.evaluateNode backend feeds buffers id s with ⟨e | values, s₁⟩
      · rw [evaluateAll_cons_of_error hnode] at h
        exact absurd h (by simp)
      · rw [evaluateAll_cons_of_ok hnode] at h
        exact ih (hbuffers.cons hnode) h

theorem lookup_of_operand {o : Operand} (h : g.operand buffers id = .ok o) :
    buffers.lookup id = some o.values := by
  unfold Graph.operand at h
  split at h
  · exact absurd h (by simp)
  · next values hvalues =>
      split at h
      · exact absurd h (by simp)
      · cases h
        exact hvalues

/-- An operand is what it is said to be. -/
theorem Counted.operand {o : Operand} {type : TensorType} (hbuffers : g.Counted buffers)
    (h : g.operand buffers id = .ok o) (htype : g.typeOf id = .tensor type) : o.OfType type := by
  unfold Graph.operand at h
  split at h
  · exact absurd h (by simp)
  · next values hlookup =>
      split at h
      · exact absurd h (by simp)
      · next node found htyped =>
          cases h
          obtain ⟨hnode, hfound⟩ := typedNode_eq_ok_iff.1 htyped
          rw [typeOf_eq hnode] at htype
          cases hfound.symm.trans htype
          obtain ⟨type', htype', hholds⟩ := hbuffers id values hlookup
          rw [typeOf_eq hnode] at htype'
          cases hfound.symm.trans htype'
          exact ⟨rfl, rfl, hholds⟩

end Graph

end Thresholding
