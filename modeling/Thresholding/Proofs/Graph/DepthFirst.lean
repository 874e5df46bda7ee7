import Mathlib.Data.List.Basic
import Thresholding.Proofs.Graph.Traversal

/-!
# Thresholding.Proofs.Graph.DepthFirst

**The evaluation order is depth first**, also on a graph with cycles: a node is listed after its
inputs, but for those that lead back to it.

A traversal leaves a marked name alone, and so it may list a node before one of its inputs. That
input was marked and not yet listed: its own inputs were being visited. The invariant is
`LeadsOn`: whatever is still to be visited is reached from such a name.
-/

namespace Thresholding

namespace Graph

variable {g : Graph} {id : NodeId} {ids marked done listed marked' : List NodeId}

/-! ### Names whose inputs are being visited -/

/-- What is marked is done, or else all that is to be visited is reached from it. -/
def LeadsOn (g : Graph) (marked done ids : List NodeId) : Prop :=
  ∀ x ∈ marked, x ∈ done ∨ ∀ id ∈ ids, g.Reaches x id

theorem leadsOn_nil (g : Graph) (done ids : List NodeId) : g.LeadsOn [] done ids :=
  fun _ hx => absurd hx List.not_mem_nil

theorem LeadsOn.tail (h : g.LeadsOn marked done (id :: ids)) : g.LeadsOn marked done ids := by
  intro x hx
  exact (h x hx).imp_right fun hids other hother => hids other (List.mem_cons_of_mem _ hother)

/-- When a name is marked, it leads to its inputs, and so does what leads to it. -/
theorem LeadsOn.inputs (h : g.LeadsOn marked done (id :: ids)) :
    g.LeadsOn (id :: marked) done (g.inputs id) := by
  intro x hx
  rcases List.mem_cons.1 hx with rfl | hx
  · exact Or.inr fun input hinput => .single hinput
  · exact (h x hx).imp_right fun hids input hinput => (hids id List.mem_cons_self).tail hinput

/-- When a name is listed, it is done, and so is what its inputs listed. -/
theorem LeadsOn.finish {inner marked₁ : List NodeId} (h : g.LeadsOn marked done ids)
    (hinner : Traverses g (g.inputs id) (id :: marked) inner marked₁) :
    g.LeadsOn marked₁ (done ++ (inner ++ [id])) ids := by
  intro x hx
  rw [hinner.mem_marked_iff, List.mem_cons] at hx
  rcases hx with (rfl | hx) | hx
  · simp
  · exact (h x hx).imp_left (List.mem_append_left _)
  · simp [hx]

/-! ### Inputs before their users -/

/-- What stands before a name of a list stands before it in the list. -/
theorem pair_sublist_append {front behind : List NodeId} {x y : NodeId} (hx : x ∈ front)
    (hy : y ∈ behind) : [x, y].Sublist (front ++ behind) :=
  (List.singleton_sublist.2 hx).append (List.singleton_sublist.2 hy)

/-- **An input that is not listed before its user leads back to it.** The names in `done` have been
listed before. -/
theorem Traverses.input_before (h : Traverses g ids marked listed marked')
    (hopen : g.LeadsOn marked done ids) {user input : NodeId} (huser : user ∈ listed)
    (hinput : g.Uses user input) :
    input ∈ done ∨ [input, user].Sublist listed ∨ g.Reaches input user := by
  induction h generalizing done with
  | nil => exact absurd huser List.not_mem_nil
  | seen _ _ ih => exact ih hopen.tail huser
  | @fresh id ids marked inner marked₁ rest _ _ hinner _ ihinner ihrest =>
      rw [List.mem_append, List.mem_cons] at huser
      rcases huser with huser | rfl | huser
      · refine (ihinner hopen.inputs huser).imp_right (Or.imp_left fun hbefore => ?_)
        exact hbefore.trans (List.sublist_append_left _ _)
      · -- the input is marked now: it is the name itself, or marked before, or just listed
        have hmarked := hinner.mem_marked_iff.1 (hinner.ids_subset hinput)
        rw [List.mem_cons] at hmarked
        rcases hmarked with (rfl | hmarked) | hlisted
        · exact Or.inr (Or.inr .refl)
        · exact (hopen input hmarked).imp_right fun hids => Or.inr (hids user List.mem_cons_self)
        · exact Or.inr (Or.inl (pair_sublist_append hlisted List.mem_cons_self))
      · rw [List.append_cons]
        rcases ihrest (hopen.tail.finish hinner) huser with hdone | hbefore | hreaches
        · refine (List.mem_append.1 hdone).imp_right fun hlisted => Or.inl ?_
          exact pair_sublist_append hlisted huser
        · exact Or.inr (Or.inl (hbefore.trans (List.sublist_append_right _ _)))
        · exact Or.inr (Or.inr hreaches)

/-- In a list without repetition, what stands before has the smaller index. -/
theorem idxOf_lt_of_pair_sublist {l : List NodeId} (hnodup : l.Nodup) {x y : NodeId}
    (h : [x, y].Sublist l) : l.idxOf x < l.idxOf y := by
  obtain ⟨front, behind, rfl, hx, hy⟩ := List.cons_sublist_iff.1 h
  have hfront : y ∉ front := fun hfront =>
    List.disjoint_of_nodup_append hnodup hfront (List.singleton_sublist.1 hy)
  rw [List.idxOf_append_of_mem hx, List.idxOf_append_of_notMem hfront]
  exact Nat.lt_of_lt_of_le (List.idxOf_lt_length_of_mem hx) (Nat.le_add_right _ _)

theorem idxOf_lt_or_reaches {outputs : List NodeId} {user input : NodeId}
    (huser : user ∈ g.order outputs) (hinput : g.Uses user input) :
    (g.order outputs).idxOf input < (g.order outputs).idxOf user ∨ g.Reaches input user := by
  obtain ⟨_, h⟩ := g.traverses_order outputs
  have hbefore := h.input_before (g.leadsOn_nil [] outputs) huser hinput
  exact (hbefore.resolve_left List.not_mem_nil).imp_left (idxOf_lt_of_pair_sublist h.nodup)

/-! ### The order -/

/-- Any bound on the depth that exceeds the number of nodes gives the same order. -/
theorem order_visit {depth : Nat} (hdepth : g.size < depth) (outputs : List NodeId) :
    (outputs.foldl (fun t id => g.visit depth id t) {}).order = g.order outputs := by
  obtain ⟨listed, _, htraverses, hfoldl⟩ :=
    follows_of_unmarked_lt depth outputs {} (Nat.lt_of_le_of_lt (g.unmarked_le_size _) hdepth)
  obtain ⟨_, horder⟩ := g.traverses_order outputs
  rw [hfoldl]
  exact (horder.unique htraverses).1

/-- A list of names is the depth-first order of outputs. -/
structure DepthFirst (g : Graph) (outputs order : List NodeId) : Prop where
  /-- A traversal from the outputs, with no bound on its depth, comes to an end and lists the
  names. -/
  traversed : ∃ marked', Traverses g outputs [] order marked'
  /-- With a bound that exceeds the number of nodes, it lists the same. -/
  visited : ∀ depth, g.size < depth →
    (outputs.foldl (fun t id => g.visit depth id t) {}).order = order
  /-- Nothing is listed twice. -/
  nodup : order.Nodup
  /-- What is reached from the outputs is listed, and nothing else. -/
  mem_iff : ∀ id, id ∈ order ↔ ∃ output ∈ outputs, g.Reaches output id
  /-- An input is listed before its user, unless it leads back to it. -/
  input_before : ∀ user ∈ order, ∀ input ∈ g.inputs user,
    order.idxOf input < order.idxOf user ∨ g.Reaches input user
  /-- Where no cycle is reached, every input is listed before its user. -/
  acyclic : (∀ output ∈ outputs, g.AcyclicFrom output) →
    ∀ user ∈ order, ∀ input ∈ g.inputs user, order.idxOf input < order.idxOf user

/-- **The evaluation order is depth first**, for every graph and every list of outputs. -/
theorem depthFirst_order (g : Graph) (outputs : List NodeId) :
    g.DepthFirst outputs (g.order outputs) where
  traversed := g.traverses_order outputs
  visited _ hdepth := order_visit hdepth outputs
  nodup := g.order_nodup outputs
  mem_iff _ := mem_order_iff
  input_before _ huser _ hinput := idxOf_lt_or_reaches huser hinput
  acyclic hacyclic user huser input hinput := by
    refine (idxOf_lt_or_reaches huser hinput).resolve_right fun hreaches => ?_
    obtain ⟨output, houtput, huser⟩ := mem_order_iff.1 huser
    exact hacyclic output houtput user huser (Relation.TransGen.head' hinput hreaches)

/-- A source that has an input, a call on itself, and two calls on each other's results, one of
which has an input that is no node. -/
def tangledInputs : Graph where
  nodes := #[
    { op := .var "x", inputs := [2], type := .incomplete, payload? := none },
    { op := .multiThreshold ⟨"UINT2", .zero⟩, inputs := [1, 0], type := .incomplete,
      payload? := none },
    { op := .multiThreshold ⟨"UINT2", .zero⟩, inputs := [3, 9], type := .incomplete,
      payload? := none },
    { op := .multiThreshold ⟨"UINT2", .zero⟩, inputs := [2, 1], type := .incomplete,
      payload? := none }]

/-- Where a cycle is entered decides which of its nodes is listed before its input. -/
example : tangledInputs.order [1] = [3, 9, 2, 0, 1] ∧
    tangledInputs.order [3, 0] = [9, 2, 0, 1, 3] := by decide

end Graph

end Thresholding
