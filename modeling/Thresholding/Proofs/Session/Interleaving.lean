import Thresholding.Proofs.Graph.Adding
import Thresholding.Proofs.Session.Basic
import Thresholding.Proofs.Typing.OrderedPass

/-!
# Thresholding.Proofs.Session.Interleaving

**Passes in between make no difference.** A session may type its graph as it grows or when all
nodes have been added; the last pass comes to the same.

Two sessions are compared step by step, one of which leaves the passes out. The graphs differ in
the types of calls only, and each type that the passes have recorded is the one that the
graph without them settles to (`PartlyTyped`). A node that is added later does not change what its
forerunners settle to, because none of them uses it.
-/

namespace Thresholding

namespace Graph

variable {registry : Registry} {config : Config} {plain g : Graph}

/-- Types have been recorded on some calls of a graph, and they are those that the graph settles
to. -/
structure PartlyTyped (registry : Registry) (config : Config) (plain g : Graph) : Prop where
  /-- Inputs stand before their users. -/
  inputsFirst : plain.InputsFirst
  /-- Only types of calls differ. -/
  retypes : Retypes plain g
  /-- A type is the one from before or the one that typing finds. -/
  typeOf : ∀ id, g.typeOf id = plain.typeOf id ∨
    g.typeOf id = (plain.typeCheck registry config .empty).graph.typeOf id

theorem InputsFirst.ordered (h : plain.InputsFirst) : plain.Ordered := by
  intro id hid input hinput
  obtain ⟨node, hnode, -⟩ := mem_calls.1 hid
  have hlt : id < plain.size := by
    refine Nat.lt_of_not_le fun hge => ?_
    simp [node?_eq_none_iff.2 hge] at hnode
  exact Or.inl (h id hlt input hinput)

theorem PartlyTyped.ordered (h : PartlyTyped registry config plain g) : g.Ordered :=
  h.retypes.ordered h.inputsFirst.ordered

theorem PartlyTyped.settles (h : PartlyTyped registry config plain g) :
    Settles registry config g (plain.typeCheck registry config .empty).graph := by
  have hsettles : Settles registry config plain (plain.typeCheck registry config .empty).graph :=
    h.inputsFirst.ordered.settles_typeCheck .empty
  constructor
  case retypes => exact h.retypes.symm.trans hsettles.retypes
  case typed =>
    intro id hid
    rw [h.retypes.calls_eq] at hid
    exact hsettles.typed id hid
  case kept =>
    intro id hid d herror
    rw [h.retypes.calls_eq] at hid
    have hkept := hsettles.kept id hid d herror
    rcases h.typeOf id with hsame | hfound
    · rw [hkept, hsame]
    · exact hfound.symm

theorem PartlyTyped.refl (h : plain.InputsFirst) : PartlyTyped registry config plain plain := by
  constructor
  case inputsFirst => exact h
  case retypes => exact Retypes.refl plain
  case typeOf =>
    intro id
    exact Or.inl rfl

theorem PartlyTyped.typeCheck (h : PartlyTyped registry config plain g) (log : DiagnosticLog) :
    PartlyTyped registry config plain (g.typeCheck registry config log).graph := by
  have hgraph : (g.typeCheck registry config log).graph =
      (plain.typeCheck registry config .empty).graph := by
    rw [h.ordered.typeCheck_eq h.settles]
  constructor
  case inputsFirst => exact h.inputsFirst
  case retypes =>
    rw [hgraph]
    exact retypes_typeCheck
  case typeOf =>
    intro id
    exact Or.inr (by rw [hgraph])

/-- What stands before a new node settles to what it settled to without the node. -/
theorem InputsFirst.typeOf_typeCheck_add (h : plain.InputsFirst) {node : Node}
    (hnode : ∀ input ∈ node.inputs, input < plain.size) {id : NodeId} (hid : id < plain.size) :
    ((plain.add node).2.typeCheck registry config .empty).graph.typeOf id =
      (plain.typeCheck registry config .empty).graph.typeOf id := by
  refine (h.ordered.settles_typeCheck .empty).typeOf_eq
    ((h.add hnode).ordered.settles_typeCheck .empty) (n := plain.size) ?_ ?_ id hid
  · intro id hlt
    exact node?_add_of_ne (Nat.ne_of_lt hlt)
  · intro id hlt _ input hinput
    exact Or.inl (h id hlt input hinput)

theorem PartlyTyped.add (h : PartlyTyped registry config plain g) {node : Node}
    (hnode : ∀ input ∈ node.inputs, input < g.size) :
    PartlyTyped registry config (plain.add node).2 (g.add node).2 := by
  rw [h.retypes.size_eq] at hnode
  have hretypes := h.retypes.add node
  constructor
  case inputsFirst => exact h.inputsFirst.add hnode
  case retypes => exact hretypes
  case typeOf =>
    intro id
    -- what stands before the new node settles as before, and the new node is the same in both
    rcases Nat.lt_trichotomy id plain.size with hlt | rfl | hgt
    · rw [typeOf_add_of_ne (Nat.ne_of_lt hlt),
        typeOf_add_of_ne (h.retypes.size_eq.symm ▸ Nat.ne_of_lt hlt),
        h.inputsFirst.typeOf_typeCheck_add hnode hlt]
      exact h.typeOf id
    · have hself : (g.add node).2.node? plain.size = some node := by
        rw [← h.retypes.size_eq]
        exact node?_add_self g node
      exact Or.inl (by rw [typeOf_eq hself, typeOf_eq (node?_add_self plain node)])
    · have hnone : (plain.add node).2.node? id = none :=
        node?_eq_none_iff.2 (by rw [size_add]; omega)
      exact Or.inl (by rw [Graph.typeOf, Graph.typeOf, hnone, hretypes.node?_eq_none.2 hnone])

end Graph

namespace Step

/-- A step with a given registry and configuration, where it needs any, that records no type by
hand. -/
def Uses (registry : Registry) (config : Config) : Step → Prop
  | make registry' _ _ _ => registry' = registry
  | setType _ _ => False
  | check registry' config' => registry' = registry ∧ config' = config
  | _ => True

theorem Uses.leavesTypes {registry : Registry} {config : Config}
    (hregistry : registry.BuiltFrom OpDef.BuildsThresholdCalls) {step : Step}
    (h : step.Uses registry config) : step.LeavesTypes := by
  cases step with
  | make registry' name inputs op =>
      have heq : registry' = registry := h
      exact heq ▸ hregistry
  | setType id type => exact h
  | _ => trivial

end Step

namespace Session

open Thresholding.Graph

variable {registry : Registry} {config : Config}

/-- The steps without the typing passes. -/
def additions (steps : List Step) : List Step := steps.filter fun step => !step.isCheck

/-- **A session and the one without its passes** keep in step. -/
theorem partlyTyped_run (hregistry : registry.BuiltFrom OpDef.BuildsThresholdCalls)
    {steps : List Step} (huses : ∀ step ∈ steps, step.Uses registry config) {plain s : Session}
    (hgrounded : s.Grounded steps) (h : PartlyTyped registry config plain.graph s.graph) :
    PartlyTyped registry config (plain.run (additions steps)).graph (s.run steps).graph := by
  induction steps generalizing plain s with
  | nil => exact h
  | cons step steps ih =>
      obtain ⟨hstep, hrest⟩ := List.forall_mem_cons.1 huses
      obtain ⟨hinputs, hgrounded⟩ := hgrounded
      rcases Step.apply_cases (hstep.leavesTypes hregistry) with
        ⟨registry', config', rfl⟩ | ⟨hadds, hnothing | ⟨node, hnode, -, hadded⟩⟩
      · obtain ⟨rfl, rfl⟩ := hstep
        exact ih hrest hgrounded (h.typeCheck s.log)
      · rw [hnothing] at hgrounded
        simpa [additions, hadds, hnothing] using ih hrest hgrounded h
      · rw [← hnode] at hinputs
        have hboth : PartlyTyped registry config (step.apply plain).graph (step.apply s).graph := by
          rw [hadded, hadded]
          exact h.add hinputs
        simpa [additions, hadds] using ih hrest hgrounded hboth

/-- **Typing as the graph grows is typing at the end.** With one registry and one configuration, and
inputs that name nodes already added, the last pass of a session ends with the same graph, counts
as many calls and reports the same as the only pass of the session that adds all nodes first.
The typing relations of the registry may be any. -/
theorem last_pass_agrees (hregistry : registry.BuiltFrom OpDef.BuildsThresholdCalls)
    {steps : List Step} (huses : ∀ step ∈ steps, step.Uses registry config)
    (hgrounded : Grounded {} steps) :
    PassesAgree (run {} (additions steps)).log (run {} steps).log
      ((run {} (additions steps)).graph.typeCheck registry config (run {} (additions steps)).log)
      ((run {} steps).graph.typeCheck registry config (run {} steps).log) := by
  have hempty : PartlyTyped registry config (Session.graph {}) (Session.graph {}) :=
    .refl fun id hlt => absurd hlt (Nat.not_lt_zero id)
  have h := partlyTyped_run hregistry huses hgrounded hempty
  exact h.inputsFirst.ordered.passesAgree h.ordered
    (h.inputsFirst.ordered.settles_typeCheck .empty) h.settles _ _

/-- Two inputs and a call on them, typed at once; a call that is refused; a call with a bias that
does not suit its domain, typed with no success; and a call on its result. -/
def growingGraph : List Step := [
  .addVar "x" (.tensor ⟨⟨[1, 2, 4]⟩, .float32⟩),
  .addVar "t" (.tensor ⟨⟨[2, 4]⟩, .float32⟩),
  .make .builtin Op.multiThresholdName [0, 1] (.multiThreshold ⟨"UINT2", .zero⟩),
  .check .builtin {},
  .make .builtin Op.multiThresholdName [2] (.multiThreshold ⟨"UINT2", .zero⟩),
  .addCall (.multiThreshold ⟨"INT2", .zero⟩) [2, 1],
  .check .builtin {},
  .addCall (.multiThreshold ⟨"INT2", .ofInt .binary64 (-2)⟩) [3, 1]]

theorem last_pass_agrees_growingGraph :
    (∀ step ∈ growingGraph, step.Uses .builtin {}) ∧ Grounded {} growingGraph ∧
      PassesAgree (run {} (additions growingGraph)).log (run {} growingGraph).log
        ((run {} (additions growingGraph)).graph.typeCheck .builtin {}
          (run {} (additions growingGraph)).log)
        ((run {} growingGraph).graph.typeCheck .builtin {} (run {} growingGraph).log) := by
  have huses : ∀ step ∈ growingGraph, step.Uses .builtin {} := by
    simp [growingGraph, Step.Uses]
  have hgrounded : Grounded {} growingGraph := by decide +kernel
  exact ⟨huses, hgrounded, last_pass_agrees .builtin huses hgrounded⟩

/-- The passes in between have reported the second call once before. -/
example : ((run {} growingGraph).log.entries.map (·.node?),
    ((run {} growingGraph).graph.typeCheck .builtin {} (run {} growingGraph).log).log.entries.map
      (·.node?)) = ([some 3], [some 3, some 3, some 4]) := by decide +kernel

end Session

end Thresholding
