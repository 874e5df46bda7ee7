import Mathlib.Data.Set.Card
import Mathlib.Logic.Relation
import Thresholding.Graph.Order

/-!
# Thresholding.Proofs.Graph.Traversal

The **depth-first traversal** as a relation, without a bound on its depth.

`Traverses` says how a list of names is visited: which names are listed, and which are marked
when that is done. It follows the recursion of `Graph.visit` but for the bound, which is never
met (`follows_of_unmarked_lt`), and the names listed before, which a traversal does not look at. So
a property of the evaluation order is an induction with three cases: nothing to visit, a name
that is marked, and a name that is not.
-/

namespace Thresholding

namespace Graph

variable {g : Graph}

/-! ### Reachable names -/

/-- A name is an input of a node. -/
def Uses (g : Graph) (id input : NodeId) : Prop := input ∈ g.inputs id

instance (g : Graph) (id input : NodeId) : Decidable (g.Uses id input) :=
  inferInstanceAs (Decidable (input ∈ g.inputs id))

/-- A name is reached from another one through inputs. -/
def Reaches (g : Graph) : NodeId → NodeId → Prop := Relation.ReflTransGen g.Uses

/-- No cycle of inputs is reached from a name. -/
def AcyclicFrom (g : Graph) (output : NodeId) : Prop :=
  ∀ id, g.Reaches output id → ¬ Relation.TransGen g.Uses id id

theorem inputs_eq_nil {id : NodeId} (h : g.size ≤ id) : g.inputs id = [] := by
  rw [inputs, node?_eq_none_iff.2 h]

/-- What is reached from a name is the name or the input of some node. -/
theorem finite_reaches (g : Graph) (id : NodeId) : {x | g.Reaches id x}.Finite := by
  refine (List.finite_toSet (id :: (List.range g.size).flatMap g.inputs)).subset fun x hx => ?_
  rcases Relation.ReflTransGen.cases_tail hx with rfl | ⟨user, -, hinput⟩
  · exact List.mem_cons_self
  · refine List.mem_cons_of_mem _ (List.mem_flatMap.2 ⟨user, List.mem_range.2 ?_, hinput⟩)
    refine Nat.lt_of_not_le fun hge => ?_
    rw [Uses, inputs_eq_nil hge] at hinput
    exact absurd hinput List.not_mem_nil

theorem AcyclicFrom.input {id input : NodeId} (h : g.AcyclicFrom id) (hinput : g.Uses id input) :
    g.AcyclicFrom input :=
  fun x hx => h x (hx.head hinput)

/-- Without cycles, less is reached from an input. -/
theorem AcyclicFrom.ncard_reaches_lt {id input : NodeId} (h : g.AcyclicFrom id)
    (hinput : g.Uses id input) :
    {x | g.Reaches input x}.ncard < {x | g.Reaches id x}.ncard := by
  refine Set.ncard_lt_ncard ?_ (g.finite_reaches id)
  refine Set.ssubset_iff_of_subset (fun x hx => hx.head hinput) |>.2 ⟨id, .refl, fun hcycle => ?_⟩
  exact h id .refl (Relation.TransGen.head' hinput hcycle)

/-- Every input of a node stands before the node. -/
def InputsFirst (g : Graph) : Prop := ∀ id < g.size, ∀ input ∈ g.inputs id, input < id

instance (g : Graph) : Decidable g.InputsFirst :=
  inferInstanceAs (Decidable (∀ id < g.size, _))

/-- Inputs of inputs stand still further before. -/
theorem InputsFirst.lt_of_transGen (h : g.InputsFirst) {id input : NodeId}
    (huses : Relation.TransGen g.Uses id input) : input < id := by
  have hstep : ∀ {id input : NodeId}, g.Uses id input → input < id := by
    intro id input hinput
    rcases Nat.lt_or_ge id g.size with hlt | hge
    · exact h id hlt input hinput
    · rw [Uses, inputs_eq_nil hge] at hinput
      exact absurd hinput List.not_mem_nil
  induction huses with
  | single hinput => exact hstep hinput
  | tail _ hinput ih => exact Nat.lt_trans (hstep hinput) ih

theorem InputsFirst.le_of_reaches (h : g.InputsFirst) {id input : NodeId}
    (hreaches : g.Reaches id input) : input ≤ id := by
  rcases Relation.reflTransGen_iff_eq_or_transGen.1 hreaches with heq | htransGen
  · exact Nat.le_of_eq heq
  · exact Nat.le_of_lt (h.lt_of_transGen htransGen)

theorem InputsFirst.acyclicFrom (h : g.InputsFirst) (output : NodeId) : g.AcyclicFrom output :=
  fun _ _ hcycle => absurd (h.lt_of_transGen hcycle) (Nat.lt_irrefl _)

/-! ### The traversal -/

/-- Visiting `ids` when `marked` has been reached lists `listed`, and `marked'` has been
reached then. -/
inductive Traverses (g : Graph) : (ids marked listed marked' : List NodeId) → Prop
  /-- Nothing to visit. -/
  | nil {marked : List NodeId} : Traverses g [] marked [] marked
  /-- A name that is marked is left alone. -/
  | seen {id : NodeId} {ids marked listed marked' : List NodeId} :
      id ∈ marked → Traverses g ids marked listed marked' →
      Traverses g (id :: ids) marked listed marked'
  /-- A name that is not marked is listed behind what its inputs list. -/
  | fresh {id : NodeId} {ids marked inner marked₁ rest marked' : List NodeId} :
      id ∉ marked → Traverses g (g.inputs id) (id :: marked) inner marked₁ →
      Traverses g ids marked₁ rest marked' →
      Traverses g (id :: ids) marked (inner ++ id :: rest) marked'

variable {ids marked listed marked' : List NodeId}

/-- What is marked in the end was marked before or is listed. -/
theorem Traverses.mem_marked_iff (h : Traverses g ids marked listed marked') {x : NodeId} :
    x ∈ marked' ↔ x ∈ marked ∨ x ∈ listed := by
  induction h with
  | nil => simp
  | seen _ _ ih => exact ih
  | fresh _ _ _ ihinner ihrest =>
      rw [ihrest, ihinner, List.mem_cons, List.mem_append, List.mem_cons]
      grind

theorem Traverses.marked_subset (h : Traverses g ids marked listed marked') : marked ⊆ marked' :=
  fun _ hx => h.mem_marked_iff.2 (Or.inl hx)

/-- What was to be visited is marked in the end. -/
theorem Traverses.ids_subset (h : Traverses g ids marked listed marked') : ids ⊆ marked' := by
  induction h with
  | nil => exact List.nil_subset _
  | seen hid hrest ih => exact List.cons_subset.2 ⟨hrest.marked_subset hid, ih⟩
  | fresh _ hinner hrest _ ih =>
      exact List.cons_subset.2
        ⟨hrest.marked_subset (hinner.marked_subset List.mem_cons_self), ih⟩

/-- When a name is listed, its inputs are marked in the end. -/
theorem Traverses.inputs_subset (h : Traverses g ids marked listed marked') {x : NodeId}
    (hx : x ∈ listed) : g.inputs x ⊆ marked' := by
  induction h with
  | nil => exact absurd hx List.not_mem_nil
  | seen _ _ ih => exact ih hx
  | fresh _ hinner hrest ihinner ihrest =>
      rcases List.mem_append.1 hx with hx | hx
      · exact List.Subset.trans (ihinner hx) hrest.marked_subset
      · rcases List.mem_cons.1 hx with rfl | hx
        · exact List.Subset.trans hinner.ids_subset hrest.marked_subset
        · exact ihrest hx

/-- Only names that are reached from what was to be visited are listed. -/
theorem Traverses.reaches (h : Traverses g ids marked listed marked') {x : NodeId}
    (hx : x ∈ listed) : ∃ id ∈ ids, g.Reaches id x := by
  induction h with
  | nil => exact absurd hx List.not_mem_nil
  | seen _ _ ih => exact (ih hx).imp fun _ => And.imp_left (List.mem_cons_of_mem _)
  | @fresh id _ _ _ _ _ _ _ _ _ ihinner ihrest =>
      rcases List.mem_append.1 hx with hx | hx
      · obtain ⟨input, hinput, hreaches⟩ := ihinner hx
        exact ⟨id, List.mem_cons_self, hreaches.head hinput⟩
      · rcases List.mem_cons.1 hx with rfl | hx
        · exact ⟨x, List.mem_cons_self, .refl⟩
        · exact (ihrest hx).imp fun _ => And.imp_left (List.mem_cons_of_mem _)

/-- Nothing is listed that was marked before. -/
theorem Traverses.notMem_marked (h : Traverses g ids marked listed marked') {x : NodeId}
    (hx : x ∈ listed) : x ∉ marked := by
  induction h with
  | nil => exact absurd hx List.not_mem_nil
  | seen _ _ ih => exact ih hx
  | fresh hid hinner _ ihinner ihrest =>
      intro hmarked
      rcases List.mem_append.1 hx with hx | hx
      · exact ihinner hx (List.mem_cons_of_mem _ hmarked)
      · rcases List.mem_cons.1 hx with rfl | hx
        · exact hid hmarked
        · exact ihrest hx (hinner.marked_subset (List.mem_cons_of_mem _ hmarked))

/-- Nothing is listed twice. -/
theorem Traverses.nodup (h : Traverses g ids marked listed marked') : listed.Nodup := by
  induction h with
  | nil => exact List.nodup_nil
  | seen _ _ ih => exact ih
  | @fresh id _ _ inner marked₁ rest _ _ hinner hrest ihinner ihrest =>
      have hmarked : id ∈ marked₁ := hinner.marked_subset List.mem_cons_self
      rw [List.nodup_append, List.nodup_cons]
      refine ⟨ihinner, ⟨fun hid => hrest.notMem_marked hid hmarked, ihrest⟩, ?_⟩
      rintro x hx y hy rfl
      rcases List.mem_cons.1 hy with rfl | hy
      · exact hinner.notMem_marked hx List.mem_cons_self
      · exact hrest.notMem_marked hy (hinner.mem_marked_iff.2 (Or.inr hx))

/-- What is listed, and what is marked then, is determined by the names and what was marked. -/
theorem Traverses.unique (h : Traverses g ids marked listed marked') {listed₁ marked₁ : List NodeId}
    (h₁ : Traverses g ids marked listed₁ marked₁) : listed₁ = listed ∧ marked₁ = marked' := by
  induction h generalizing listed₁ marked₁ with
  | nil =>
      cases h₁
      exact ⟨rfl, rfl⟩
  | seen hid _ ih =>
      cases h₁ with
      | seen _ hrest => exact ih hrest
      | fresh hnew _ _ => exact absurd hid hnew
  | fresh hnew _ _ ihinner ihrest =>
      cases h₁ with
      | seen hid _ => exact absurd hid hnew
      | fresh _ hinner hrest =>
          obtain ⟨rfl, rfl⟩ := ihinner hinner
          obtain ⟨rfl, rfl⟩ := ihrest hrest
          exact ⟨rfl, rfl⟩

/-- **A traversal looks at the inputs of reached names only**, so a graph in which those have the
same inputs is traversed in the same way. -/
theorem Traverses.congr {g' : Graph} (h : Traverses g ids marked listed marked')
    (hinputs : ∀ id ∈ ids, ∀ x, g.Reaches id x → g'.inputs x = g.inputs x) :
    Traverses g' ids marked listed marked' := by
  induction h with
  | nil => exact .nil
  | seen hid _ ih => exact .seen hid (ih fun id hmem => hinputs id (List.mem_cons_of_mem _ hmem))
  | fresh hnew _ _ ihinner ihrest =>
      have hhead := hinputs _ List.mem_cons_self
      refine .fresh hnew ?_ (ihrest fun id hmem => hinputs id (List.mem_cons_of_mem _ hmem))
      rw [hhead _ .refl]
      exact ihinner fun input hinput x hx => hhead x (hx.head hinput)

/-! ### The bound on the depth -/

/-- The number of nodes that are not marked. -/
def unmarked (g : Graph) (marked : List NodeId) : Nat :=
  (List.range g.size).countP fun id => decide (id ∉ marked)

theorem unmarked_le_size (g : Graph) (marked : List NodeId) : g.unmarked marked ≤ g.size :=
  Nat.le_trans List.countP_le_length (Nat.le_of_eq List.length_range)

theorem unmarked_anti (h : marked ⊆ marked') : g.unmarked marked' ≤ g.unmarked marked := by
  refine List.countP_mono_left fun id _ hid => ?_
  exact decide_eq_true fun hmem => of_decide_eq_true hid (h hmem)

/-- Marking a node leaves fewer that are not marked. -/
theorem unmarked_cons_lt {id : NodeId} (hlt : id < g.size) (hid : id ∉ marked) :
    g.unmarked (id :: marked) < g.unmarked marked := by
  obtain ⟨before, behind, hsplit⟩ := List.append_of_mem (List.mem_range.2 hlt)
  have hle : ∀ l : List NodeId, l.countP (fun x => decide (x ∉ id :: marked)) ≤
      l.countP fun x => decide (x ∉ marked) := fun l => by
    refine List.countP_mono_left fun x _ hx => ?_
    exact decide_eq_true fun hmem => of_decide_eq_true hx (List.mem_cons_of_mem _ hmem)
  unfold unmarked
  rw [hsplit, List.countP_append, List.countP_append, List.countP_cons_of_neg (by simp),
    List.countP_cons_of_pos (by simpa using hid)]
  have hbefore := hle before
  have hbehind := hle behind
  omega

/-- Visiting names to a given depth follows a traversal of them. -/
def Follows (g : Graph) (depth : Nat) (ids : List NodeId) (t : Traversal) : Prop :=
  ∃ listed marked', Traverses g ids t.marked listed marked' ∧
    ids.foldl (fun t id => g.visit depth id t) t = { marked := marked', order := t.order ++ listed }

/-- A name that is not marked, one level further up: its inputs are visited with one node
less to mark. -/
theorem exists_visit_eq {depth : Nat} {id : NodeId} {t : Traversal}
    (h : ∀ ids t, g.unmarked t.marked < depth → g.Follows depth ids t)
    (hdepth : g.unmarked t.marked < depth + 1) (hid : id ∉ t.marked) :
    ∃ inner marked₁, Traverses g (g.inputs id) (id :: t.marked) inner marked₁ ∧
      g.visit (depth + 1) id t = { marked := marked₁, order := t.order ++ inner ++ [id] } := by
  rcases Nat.lt_or_ge id g.size with hlt | hge
  · obtain ⟨inner, marked₁, hinner, hfoldl⟩ :=
      h (g.inputs id) { t with marked := id :: t.marked }
        (Nat.lt_of_lt_of_le (unmarked_cons_lt hlt hid) (Nat.le_of_lt_succ hdepth))
    refine ⟨inner, marked₁, hinner, (if_neg hid).trans ?_⟩
    rw [hfoldl]
  · -- a name without a node costs a level, but there is nothing below it
    refine ⟨[], id :: t.marked, ?_, (if_neg hid).trans ?_⟩
    · rw [inputs_eq_nil hge]
      exact .nil
    · rw [inputs_eq_nil hge, List.append_nil]
      rfl

/-- **The bound is never met**: more levels than there are nodes that are not marked are
enough. -/
theorem follows_of_unmarked_lt (depth : Nat) (ids : List NodeId) (t : Traversal)
    (hdepth : g.unmarked t.marked < depth) : g.Follows depth ids t := by
  induction depth generalizing ids t with
  | zero => exact absurd hdepth (Nat.not_lt_zero _)
  | succ depth ihdepth =>
      induction ids generalizing t with
      | nil => exact ⟨[], t.marked, .nil, by rw [List.append_nil]; rfl⟩
      | cons id ids ih =>
          unfold Follows
          rw [List.foldl_cons]
          by_cases hid : id ∈ t.marked
          · have hvisit : g.visit (depth + 1) id t = t := if_pos hid
            obtain ⟨listed, marked', htraverses, hfoldl⟩ := ih t hdepth
            exact ⟨listed, marked', .seen hid htraverses, by rw [hvisit, hfoldl]⟩
          · obtain ⟨inner, marked₁, hinner, hvisit⟩ := exists_visit_eq ihdepth hdepth hid
            have hsubset : t.marked ⊆ marked₁ := fun _ hx =>
              hinner.marked_subset (List.mem_cons_of_mem _ hx)
            obtain ⟨rest, marked', hrest, hfoldl⟩ :=
              ih { marked := marked₁, order := t.order ++ inner ++ [id] }
                (Nat.lt_of_le_of_lt (unmarked_anti hsubset) hdepth)
            refine ⟨inner ++ id :: rest, marked', .fresh hid hinner hrest, ?_⟩
            rw [hvisit, hfoldl]
            simp

/-- **The evaluation order** is what a traversal from the outputs lists. -/
theorem traverses_order (g : Graph) (outputs : List NodeId) :
    ∃ marked', Traverses g outputs [] (g.order outputs) marked' := by
  obtain ⟨listed, marked', htraverses, hfoldl⟩ :=
    follows_of_unmarked_lt (g := g) (g.size + 1) outputs {} (Nat.lt_succ_of_le (g.unmarked_le_size _))
  refine ⟨marked', ?_⟩
  rw [order, visitAll, hfoldl]
  exact htraverses

/-- The outputs are in the evaluation order. -/
theorem subset_order (g : Graph) (outputs : List NodeId) : outputs ⊆ g.order outputs := by
  obtain ⟨marked', h⟩ := g.traverses_order outputs
  intro id hid
  exact (h.mem_marked_iff.1 (h.ids_subset hid)).resolve_left List.not_mem_nil

/-- The evaluation order names what is reached from the outputs. -/
theorem mem_order_iff {outputs : List NodeId} {id : NodeId} :
    id ∈ g.order outputs ↔ ∃ output ∈ outputs, g.Reaches output id := by
  obtain ⟨_, h⟩ := g.traverses_order outputs
  constructor
  · exact h.reaches
  · rintro ⟨output, houtput, hreaches⟩
    induction hreaches with
    | refl => exact g.subset_order outputs houtput
    | tail _ hinput ih =>
        exact (h.mem_marked_iff.1 (h.inputs_subset ih hinput)).resolve_left List.not_mem_nil

theorem mem_order_singleton {output id : NodeId} :
    id ∈ g.order [output] ↔ g.Reaches output id := by
  simp [mem_order_iff]

/-- **The evaluation order depends on the inputs of reached names only.** -/
theorem order_congr {g' : Graph} {outputs : List NodeId}
    (h : ∀ output ∈ outputs, ∀ x, g.Reaches output x → g'.inputs x = g.inputs x) :
    g'.order outputs = g.order outputs := by
  obtain ⟨_, htraverses⟩ := g.traverses_order outputs
  obtain ⟨_, htraverses'⟩ := g'.traverses_order outputs
  exact ((htraverses.congr h).unique htraverses').1

/-- The evaluation order names nothing twice. -/
theorem order_nodup (g : Graph) (outputs : List NodeId) : (g.order outputs).Nodup := by
  obtain ⟨_, h⟩ := g.traverses_order outputs
  exact h.nodup

/-- **An output stands last in its own order**, and only there, behind what a traversal from its
inputs lists. -/
theorem exists_order_eq (g : Graph) (output : NodeId) :
    ∃ others, g.order [output] = others ++ [output] ∧ output ∉ others ∧
      ∃ marked', Traverses g (g.inputs output) [output] others marked' := by
  obtain ⟨marked', h⟩ := g.traverses_order [output]
  generalize g.order [output] = listed at h
  cases h with
  | seen hmarked _ => exact absurd hmarked List.not_mem_nil
  | @fresh _ _ _ inner _ _ _ _ hinner hrest =>
      cases hrest with
      | nil =>
          refine ⟨inner, rfl, fun hmem => ?_, _, hinner⟩
          exact hinner.notMem_marked hmem List.mem_cons_self

end Graph

end Thresholding
