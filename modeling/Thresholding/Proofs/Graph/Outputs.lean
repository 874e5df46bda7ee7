import Thresholding.Proofs.Graph.DepthFirst

/-!
# Thresholding.Proofs.Graph.Outputs

**The evaluation order of several outputs** extends the order of the first ones, also on a graph
with cycles.

When the traversal comes to the further outputs, what it has marked is closed under inputs. It
does not enter such a set again (`Traverses.skip`): a traversal that has the set marked lists the
rest as a traversal that starts afresh, which enters the set, but lists nothing else there.
-/

namespace Thresholding

namespace Graph

variable {g : Graph} {ids more marked listed marked' done before : List NodeId}

/-! ### Closed sets of names -/

/-- The inputs of some names are among these names. -/
def ClosedUnderInputs (g : Graph) (done : List NodeId) : Prop := ∀ x ∈ done, g.inputs x ⊆ done

/-- The evaluation order names every input of what it names. -/
theorem closedUnderInputs_order (g : Graph) (outputs : List NodeId) :
    g.ClosedUnderInputs (g.order outputs) := by
  intro x hx input hinput
  obtain ⟨output, houtput, hreaches⟩ := mem_order_iff.1 hx
  exact mem_order_iff.2 ⟨output, houtput, hreaches.tail hinput⟩

theorem ClosedUnderInputs.mem_of_reaches (h : g.ClosedUnderInputs done) {id x : NodeId}
    (hid : id ∈ done) (hreaches : g.Reaches id x) : x ∈ done := by
  induction hreaches with
  | refl => exact hid
  | tail _ hinput ih => exact h _ ih hinput

/-- A traversal that starts in a closed set lists names of the set only. -/
theorem Traverses.subset_of_closed (h : Traverses g ids marked listed marked')
    (hclosed : g.ClosedUnderInputs done) (hids : ids ⊆ done) : listed ⊆ done := by
  intro x hx
  obtain ⟨id, hid, hreaches⟩ := h.reaches hx
  exact hclosed.mem_of_reaches (hids hid) hreaches

/-! ### Traversals one after the other -/

theorem Traverses.append (h : Traverses g ids marked listed before) {listed' : List NodeId}
    (hmore : Traverses g more before listed' marked') :
    Traverses g (ids ++ more) marked (listed ++ listed') marked' := by
  induction h with
  | nil => exact hmore
  | seen hid _ ih => exact .seen hid (ih hmore)
  | fresh hid hinner _ _ ih =>
      rw [List.cons_append, List.append_assoc, List.cons_append]
      exact .fresh hid hinner (ih hmore)

/-- **A closed set is not entered again.** If the names of a closed set are marked as well, the same
names are listed in the same order, but for those of the set. -/
theorem Traverses.skip (h : Traverses g ids marked listed marked')
    (hclosed : g.ClosedUnderInputs done) (hbefore : ∀ x, x ∈ before ↔ x ∈ marked ∨ x ∈ done) :
    ∃ after, Traverses g ids before (listed.filter fun x => decide (x ∉ done)) after ∧
      ∀ x, x ∈ after ↔ x ∈ marked' ∨ x ∈ done := by
  induction h generalizing before with
  | nil => exact ⟨before, .nil, hbefore⟩
  | seen hid _ ih =>
      obtain ⟨after, hrest, hafter⟩ := ih hbefore
      exact ⟨after, .seen ((hbefore _).2 (Or.inl hid)) hrest, hafter⟩
  | @fresh id ids marked inner marked₁ rest marked' hid hinner _ ihinner ihrest =>
      rw [List.filter_append]
      by_cases hdone : id ∈ done
      · -- the name is left alone now, and its inputs listed names of the set only
        have hlisted : inner ⊆ done := hinner.subset_of_closed hclosed (hclosed id hdone)
        have hmarked : ∀ x, x ∈ before ↔ x ∈ marked₁ ∨ x ∈ done := by
          intro x
          have hx := @hlisted x
          rw [hbefore, hinner.mem_marked_iff, List.mem_cons]
          grind
        obtain ⟨after, hrest, hafter⟩ := ihrest hmarked
        have hnone : inner.filter (fun x => decide (x ∉ done)) = [] := by
          simpa using fun x hx => hlisted hx
        rw [hnone, List.nil_append, List.filter_cons_of_neg (by simpa using hdone)]
        exact ⟨after, .seen ((hbefore id).2 (Or.inr hdone)) hrest, hafter⟩
      · have hnew : id ∉ before := by
          rw [hbefore]
          exact not_or.2 ⟨hid, hdone⟩
        have hmarked : ∀ x, x ∈ id :: before ↔ x ∈ id :: marked ∨ x ∈ done := by
          intro x
          rw [List.mem_cons, List.mem_cons, hbefore, or_assoc]
        obtain ⟨before₁, hinner', hbefore₁⟩ := ihinner hmarked
        obtain ⟨after, hrest, hafter⟩ := ihrest hbefore₁
        rw [List.filter_cons_of_pos (by simpa using hdone)]
        exact ⟨after, .fresh hnew hinner' hrest, hafter⟩

/-! ### Further outputs -/

/-- The traversal of all outputs, cut where it comes to the further ones. -/
theorem exists_traverses_more (g : Graph) (outputs more : List NodeId) :
    ∃ marked marked', Traverses g outputs [] (g.order outputs) marked ∧
      Traverses g more marked ((g.order more).filter fun x => decide (x ∉ g.order outputs))
        marked' := by
  obtain ⟨marked, hfirst⟩ := g.traverses_order outputs
  obtain ⟨_, hfresh⟩ := g.traverses_order more
  have hmarked : ∀ x, x ∈ marked ↔ x ∈ [] ∨ x ∈ g.order outputs := fun _ => hfirst.mem_marked_iff
  obtain ⟨marked', hmore, -⟩ := hfresh.skip (g.closedUnderInputs_order outputs) hmarked
  exact ⟨marked, marked', hfirst, hmore⟩

/-- What a traversal from the outputs lists is the evaluation order. -/
theorem Traverses.order_eq {outputs : List NodeId} (h : Traverses g outputs [] listed marked') :
    g.order outputs = listed := by
  obtain ⟨_, horder⟩ := g.traverses_order outputs
  exact (h.unique horder).1

/-- What further outputs do to the evaluation order. -/
structure ExtendsOrder (g : Graph) (outputs more : List NodeId) : Prop where
  /-- The order of the first outputs is followed by the order of the further ones, less what has
  been listed. -/
  order_append : g.order (outputs ++ more) =
    g.order outputs ++ (g.order more).filter fun x => decide (x ∉ g.order outputs)
  /-- So nothing that came before is reordered. -/
  prefix_order : g.order outputs <+: g.order (outputs ++ more)
  /-- An output that is repeated, wherever it is, makes no difference. -/
  order_repeated : ∀ output ∈ outputs, g.order (outputs ++ output :: more) =
    g.order (outputs ++ more)

/-- **Further outputs extend the evaluation order**, for every graph and all lists of outputs. -/
theorem extendsOrder (g : Graph) (outputs more : List NodeId) : g.ExtendsOrder outputs more := by
  obtain ⟨marked, marked', hfirst, hmore⟩ := g.exists_traverses_more outputs more
  have happend := (hfirst.append hmore).order_eq
  refine ⟨happend, happend ▸ List.prefix_append _ _, fun output houtput => ?_⟩
  have hseen := Traverses.seen (hfirst.ids_subset houtput) hmore
  rw [happend, (hfirst.append hseen).order_eq]

/-- The two calls on each other's results lead to each other. A name without a node, asked for
first, is not listed where either of them would list it. -/
example : tangledInputs.order [2] = [0, 1, 3, 9, 2] ∧ tangledInputs.order [3] = [9, 2, 0, 1, 3] ∧
    tangledInputs.order [9, 2, 9, 3] = [9, 0, 1, 3, 2] := by decide

end Graph

end Thresholding
