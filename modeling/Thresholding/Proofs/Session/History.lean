import Thresholding.Proofs.Graph.Adding
import Thresholding.Proofs.Session.Basic
import Thresholding.Proofs.Typing.OrderedPass

/-!
# Thresholding.Proofs.Session.History

**What a graph keeps of how it came to be**, over all that a host can do to it. Types may be
recorded by hand here, those of sources and of unknown names included.

The nodes that the steps of a host create can be told from the steps alone (`Step.created?`),
whatever the graph they are added to. A step adds the node that it creates at the end, or it
changes types at most (`Step.creates_or_keeps`). So after any run the graph consists of the nodes
that were created, in order, each as it was created but for its type (`Session.node?_run`).
-/

namespace Thresholding

/-! ### One step -/

namespace Step

/-- The node that a step creates, if it creates one. -/
def created? : Step → Option Node
  | addVar name type => some { op := .var name, inputs := [], type, payload? := none }
  | addConstant values type => some { op := .constant, inputs := [], type, payload? := some values }
  | addCall op inputs => some (.untyped op inputs)
  | make registry name inputs op =>
    if registry.Buildable name inputs op then some (.untyped op inputs) else none
  | setType _ _ => none
  | check _ _ => none

/-- Whether a step gives a type to what it adds. -/
def givesType : Step → Bool
  | addVar _ _ => true
  | addConstant _ _ => true
  | _ => false

/-- A step whose registry, if it has one build a call, builds it as the thresholding operator
does. -/
def BuildsCalls : Step → Prop
  | make registry _ _ _ => registry.BuiltFrom OpDef.BuildsThresholdCalls
  | _ => True

variable {step : Step} {node : Node}

/-- **What a step can do to a graph**: it creates a node, or it changes types at most. -/
theorem creates_or_keeps (h : step.BuildsCalls) :
    (∃ node, step.created? = some node ∧
      ∀ s : Session, (step.apply s).graph = (s.graph.add node).2) ∨
    step.created? = none ∧ ∀ s : Session, s.graph.SameButTypes (step.apply s).graph := by
  cases step with
  | addVar name type => exact Or.inl ⟨_, rfl, fun s => rfl⟩
  | addConstant values type => exact Or.inl ⟨_, rfl, fun s => rfl⟩
  | addCall op inputs => exact Or.inl ⟨_, rfl, fun s => rfl⟩
  | make registry name inputs op =>
      rcases h.makeIn_spec name inputs op with ⟨hbuildable, hadds⟩ | ⟨hbuildable, e, hrefuses⟩
      · refine Or.inl ⟨_, if_pos hbuildable, fun s => ?_⟩
        rw [apply, hadds]
      · refine Or.inr ⟨if_neg hbuildable, fun s => ?_⟩
        rw [apply, hrefuses]
        exact (Graph.Retypes.refl _).sameButTypes
  | setType id type => exact Or.inr ⟨rfl, fun s => Graph.sameButTypes_setType _ _ _⟩
  | check registry config => exact Or.inr ⟨rfl, fun s => Graph.retypes_typeCheck.sameButTypes⟩

/-- The node of a step that creates one. -/
theorem adds_of_created? (h : step.BuildsCalls) (hcreated : step.created? = some node)
    (s : Session) : (step.apply s).graph = (s.graph.add node).2 := by
  rcases creates_or_keeps h with ⟨found, hfound, hadds⟩ | ⟨hnone, -⟩
  · cases hcreated.symm.trans hfound
    exact hadds s
  · exact absurd (hcreated.symm.trans hnone) (by simp)

/-- A step that creates no node changes types at most. -/
theorem keeps_of_created? (h : step.BuildsCalls) (hcreated : step.created? = none) (s : Session) :
    s.graph.SameButTypes (step.apply s).graph := by
  rcases creates_or_keeps h with ⟨found, hfound, -⟩ | ⟨-, hkeeps⟩
  · exact absurd (hcreated.symm.trans hfound) (by simp)
  · exact hkeeps s

theorem eq_untyped_of_make {registry : Registry} {name : String} {inputs : List NodeId} {op : Op}
    (hcreated : (make registry name inputs op).created? = some node) :
    node = .untyped op inputs := by
  rw [created?, Option.ite_none_right_eq_some] at hcreated
  exact (Option.some.inj hcreated.2).symm

/-- Unless it is a free input or a constant, a node is created without a type. -/
theorem type_of_created? (hcreated : step.created? = some node) (hgives : step.givesType = false) :
    node.type = .incomplete := by
  cases step with
  | addVar => exact absurd hgives (by simp [givesType])
  | addConstant => exact absurd hgives (by simp [givesType])
  | addCall => cases hcreated; rfl
  | make registry name inputs op =>
      rw [eq_untyped_of_make hcreated]
      rfl
  | setType => exact absurd hcreated (by simp [created?])
  | check => exact absurd hcreated (by simp [created?])

/-- Only adding a constant creates a node with values, and they are the values it is given. -/
theorem payload?_of_created? (hcreated : step.created? = some node) {values : Buffer} :
    node.payload? = some values ↔ ∃ type, step = .addConstant values type := by
  cases step with
  | addVar => cases hcreated; simp
  | addConstant => cases hcreated; simp
  | addCall => cases hcreated; simp [Node.untyped]
  | make registry name inputs op =>
      rw [eq_untyped_of_make hcreated]
      simp [Node.untyped]
  | setType => exact absurd hcreated (by simp [created?])
  | check => exact absurd hcreated (by simp [created?])

end Step

/-! ### The whole run -/

namespace Session

variable {steps : List Step} {step : Step} {id : NodeId}

/-- The nodes that steps create, in order. -/
def created (steps : List Step) : List Node := steps.filterMap Step.created?

theorem created_concat_some {node : Node} (h : step.created? = some node) :
    created (steps ++ [step]) = created steps ++ [node] := by
  simp [created, h]

theorem created_concat_none (h : step.created? = none) :
    created (steps ++ [step]) = created steps := by
  simp [created, h]

/-- What holds at the start, and is kept when a step creates a node and when it changes types at
most, holds after every run. -/
theorem run_induction {P : List Step → Prop} (hsteps : ∀ step ∈ steps, step.BuildsCalls)
    (start : P [])
    (creates : ∀ (before : List Step) (step : Step) (node : Node),
      (∀ earlier ∈ before, earlier.BuildsCalls) → P before → step.created? = some node →
      (run {} (before ++ [step])).graph = ((run {} before).graph.add node).2 →
      P (before ++ [step]))
    (keeps : ∀ (before : List Step) (step : Step), P before → step.created? = none →
      (run {} before).graph.SameButTypes (run {} (before ++ [step])).graph →
      P (before ++ [step])) :
    P steps := by
  -- from the end, since the last step says what became of the session before it
  induction steps using List.reverseRecOn with
  | nil => exact start
  | append_singleton before step ih =>
      obtain ⟨hbefore, hstep⟩ := List.forall_mem_append.1 hsteps
      rcases Step.creates_or_keeps (hstep step List.mem_cons_self) with
        ⟨node, hcreated, hadds⟩ | ⟨hcreated, hkeeps⟩
      · have hgraph := hadds (run {} before)
        rw [← run_concat] at hgraph
        exact creates before step node hbefore (ih hbefore) hcreated hgraph
      · have hgraph := hkeeps (run {} before)
        rw [← run_concat] at hgraph
        exact keeps before step (ih hbefore) hcreated hgraph

theorem size_run (hsteps : ∀ step ∈ steps, step.BuildsCalls) :
    (run {} steps).graph.size = (created steps).length := by
  apply run_induction hsteps
  case start => rfl
  case creates =>
    intro before step node _ ih hcreated hgraph
    rw [hgraph, Graph.size_add, created_concat_some hcreated, List.length_append, ih]
    rfl
  case keeps =>
    intro before step ih hcreated hgraph
    rw [hgraph.size_eq, created_concat_none hcreated, ih]

/-- **Every node is as it was created** but for its type. -/
theorem node?_run (hsteps : ∀ step ∈ steps, step.BuildsCalls) (id : NodeId) :
    (run {} steps).graph.node? id = (created steps)[id]?.map fun node =>
      { node with type := (run {} steps).graph.typeOf id } := by
  apply run_induction hsteps
  case start => rfl
  case creates =>
    intro before step node hbefore ih hcreated hgraph
    rw [hgraph, created_concat_some hcreated]
    by_cases hid : id = (run {} before).graph.size
    · subst hid
      rw [Graph.node?_add_self, Graph.typeOf_eq (Graph.node?_add_self _ _), size_run hbefore,
        List.getElem?_concat_length]
      rfl
    · have hrest : (created before ++ [node])[id]? = (created before)[id]? := by
        rw [size_run hbefore] at hid
        rw [List.getElem?_append]
        grind
      rw [Graph.node?_add_of_ne hid, Graph.typeOf_add_of_ne hid, hrest, ih]
  case keeps =>
    intro before step ih hcreated hgraph
    rw [hgraph id, created_concat_none hcreated, ih, Option.map_map]
    rfl

end Session

end Thresholding
