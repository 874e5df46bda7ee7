import Thresholding.Evaluation.Kernel
import Thresholding.Proofs.Evaluation.Sequence
import Thresholding.Proofs.Failure
import Thresholding.Proofs.Graph.DepthFirst

/-!
# Thresholding.Proofs.Evaluation.Cycles

**A call that is computed from itself is never evaluated**, whatever types are recorded.

The evaluation order exists for a cyclic graph, too, so it is not the order that ends such an
evaluation. What ends it is that a call needs the values of its inputs: in a sequence that succeeds,
every input of a call stands before the call (`evaluateAll_input_before`). Along a cycle of calls
the position would decrease for ever.

Nothing like it holds of sources. Their inputs are ordered and never looked at.
-/

namespace Thresholding

namespace Graph

variable {σ : Type} {g : Graph} {backend : Backend σ} {feeds : Feeds} {ids : List NodeId}
  {buffers buffers' : Buffers} {id user input output : NodeId} {values : Buffer} {s s' : σ}

/-- A name is an input of a call. -/
def CallUses (g : Graph) (id input : NodeId) : Prop := id ∈ g.calls ∧ g.Uses id input

instance (g : Graph) (id input : NodeId) : Decidable (g.CallUses id input) :=
  inferInstanceAs (Decidable (_ ∧ _))

/-- A name is on a cycle of calls, each an input of the one before. A call that is its own input is
on one. -/
def OnCallCycle (g : Graph) (id : NodeId) : Prop := Relation.TransGen g.CallUses id id

/-! ### Calls after their inputs -/

/-- When a call has been evaluated, the values of its inputs were at hand. -/
theorem exists_lookup_of_input (h : g.evaluateNode backend feeds buffers user s = (.ok values, s'))
    (huses : g.CallUses user input) : ∃ found, buffers.lookup input = some found := by
  obtain ⟨hcall, hinput⟩ := huses
  obtain ⟨node, type, htyped, hvalues, -⟩ := evaluateNode_inv h
  obtain ⟨hnode, -⟩ := typedNode_eq_ok_iff.1 htyped
  obtain ⟨_, hnode', hsource⟩ := mem_calls.1 hcall
  cases hnode.symm.trans hnode'
  rw [Uses, inputs_eq hnode] at hinput
  unfold nodeValues at hvalues
  cases hop : node.op with
  | var _ => rw [hop] at hsource; exact absurd hsource (by simp [Op.isSource])
  | constant => rw [hop] at hsource; exact absurd hsource (by simp [Op.isSource])
  | multiThreshold attrs =>
      rw [hop] at hvalues
      dsimp only at hvalues
      split at hvalues
      · exact absurd hvalues (by simp)
      · next operands hoperands =>
          obtain ⟨o, ho⟩ := exists_forall₂_iff.1 ⟨operands, mapM_eq_ok_iff.1 hoperands⟩ input hinput
          exact ⟨o.values, lookup_of_operand ho⟩

/-- **In a sequence that succeeds, the inputs of a call stand before it**, unless their values were
at hand from the start. -/
theorem evaluateAll_input_before
    (h : g.evaluateAll backend feeds ids buffers s = (.ok buffers', s')) (huser : user ∈ ids)
    (huses : g.CallUses user input) :
    (∃ found, buffers.lookup input = some found) ∨ [input, user].Sublist ids := by
  induction ids generalizing buffers s with
  | nil => exact absurd huser List.not_mem_nil
  | cons id ids ih =>
      rcases hnode : g.evaluateNode backend feeds buffers id s with ⟨e | values, s₁⟩
      · rw [evaluateAll_cons_of_error hnode] at h
        exact absurd h (by simp)
      · rw [evaluateAll_cons_of_ok hnode] at h
        rcases List.mem_cons.1 huser with rfl | hrest
        · exact Or.inl (exists_lookup_of_input hnode huses)
        · by_cases heq : input = id
          · subst heq
            exact Or.inr (pair_sublist_append (List.mem_singleton_self input) hrest)
          · have hbefore := ih h hrest
            rw [List.lookup_cons, beq_false_of_ne heq] at hbefore
            exact hbefore.imp_right (List.Sublist.cons id)

/-! ### Cycles -/

/-- If an order is evaluated, the position decreases from each call of it to its inputs. -/
theorem idxOf_lt_of_evaluateAll {outputs : List NodeId}
    (h : g.evaluateAll backend feeds (g.order outputs) [] s = (.ok buffers', s'))
    (huser : user ∈ g.order outputs) (huses : g.CallUses user input) :
    input ∈ g.order outputs ∧ (g.order outputs).idxOf input < (g.order outputs).idxOf user := by
  have hbefore := (evaluateAll_input_before h huser huses).resolve_left (by simp)
  exact ⟨hbefore.subset List.mem_cons_self,
    idxOf_lt_of_pair_sublist (g.order_nodup outputs) hbefore⟩

/-- An order with a call that is computed from itself is not evaluated. -/
theorem not_onCallCycle_of_evaluateAll {outputs : List NodeId}
    (h : g.evaluateAll backend feeds (g.order outputs) [] s = (.ok buffers', s'))
    (hid : id ∈ g.order outputs) : ¬ g.OnCallCycle id := by
  intro hcycle
  have hdecreases : ∀ x, Relation.TransGen g.CallUses id x →
      x ∈ g.order outputs ∧ (g.order outputs).idxOf x < (g.order outputs).idxOf id := by
    intro x hx
    induction hx with
    | single huses => exact idxOf_lt_of_evaluateAll h hid huses
    | tail _ huses ih =>
        obtain ⟨hmem, hlt⟩ := idxOf_lt_of_evaluateAll h ih.1 huses
        exact ⟨hmem, Nat.lt_trans hlt ih.2⟩
  exact Nat.lt_irrefl _ (hdecreases id hcycle).2

/-- **A cyclic computation is refused.** If an output reaches a call that is computed from itself,
then its evaluation comes to an end and fails, for every backend, all feeds and all recorded
types. -/
theorem evaluate_error_of_callCycle (hreaches : g.Reaches output id) (hcycle : g.OnCallCycle id)
    (backend : Backend σ) (feeds : Feeds) (s : σ) :
    (∃ marked', Traverses g [output] [] (g.order [output]) marked') ∧
      ∃ e, (g.evaluate backend feeds output s).1 = .error e := by
  refine ⟨g.traverses_order [output], ?_⟩
  rcases hrun : g.evaluateAll backend feeds (g.order [output]) [] s with ⟨e | buffers, s'⟩
  · exact ⟨e, by rw [evaluate_of_error hrun]⟩
  · exact absurd hcycle (not_onCallCycle_of_evaluateAll hrun (mem_order_singleton.2 hreaches))

/-- Two calls on each other's results and a source that has one of them for an input, all of them
typed. -/
def typedCycle : Graph where
  nodes := #[
    { op := .var "x", inputs := [2], type := .tensor ⟨⟨[1]⟩, .float32⟩, payload? := none },
    { op := .multiThreshold ⟨"UINT0", .zero⟩, inputs := [0, 2],
      type := .tensor ⟨⟨[1]⟩, .float32⟩, payload? := none },
    { op := .multiThreshold ⟨"UINT0", .zero⟩, inputs := [1, 0],
      type := .tensor ⟨⟨[1]⟩, .float32⟩, payload? := none }]

/-- Data for the source. -/
def typedCycleFeeds : Feeds := .ofList [(0, [.zero])]

theorem evaluate_error_of_callCycle_typedCycle :
    typedCycle.Reaches 0 1 ∧ typedCycle.OnCallCycle 1 ∧
      (∃ marked', Traverses typedCycle [0] [] (typedCycle.order [0]) marked') ∧
      ∃ e, (typedCycle.evaluate .reference typedCycleFeeds 0 ()).1 = .error e := by
  have hreaches : typedCycle.Reaches 0 1 := mem_order_singleton.1 (by decide)
  have huses : typedCycle.CallUses 1 2 := by decide
  have huses' : typedCycle.CallUses 2 1 := by decide
  have hcycle : typedCycle.OnCallCycle 1 := .tail (.single huses) huses'
  exact ⟨hreaches, hcycle, evaluate_error_of_callCycle hreaches hcycle _ _ _⟩

/-- The call that is reached last is evaluated first, and the source has no values yet. -/
example : typedCycle.order [0] = [1, 2, 0] ∧
    (typedCycle.evaluate .reference typedCycleFeeds 0 ()).1 = .error (.missingFeed 0) := by
  decide +kernel

end Graph

end Thresholding
