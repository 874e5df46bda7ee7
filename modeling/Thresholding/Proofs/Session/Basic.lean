import Thresholding.Proofs.Registry.Building
import Thresholding.Typing.Pass

/-!
# Thresholding.Proofs.Session.Basic

**Sessions**: what a host does to a graph over time. It adds nodes, itself or through a registry,
and runs typing passes that append to one log. Each pass may have a registry and a configuration
of its own.

`Step.apply_cases` says all that a step can do when the host leaves the types to the passes: it
is a pass, it does nothing, or it adds a node that does not depend on what the graph holds.
-/

namespace Thresholding

/-- A step of a host. -/
inductive Step
  /-- Add a free input. -/
  | addVar (name : String) (type : ExprType)
  /-- Add a constant. -/
  | addConstant (values : Buffer) (type : ExprType)
  /-- Add a node without a type. -/
  | addCall (op : Op) (inputs : List NodeId)
  /-- Have a registry build a call; it may refuse. -/
  | make (registry : Registry) (name : String) (inputs : List NodeId) (op : Op)
  /-- Record a type by hand. -/
  | setType (id : NodeId) (type : ExprType)
  /-- Run a typing pass. -/
  | check (registry : Registry) (config : Config)

/-- What a host works on. -/
structure Session where
  /-- The graph. -/
  graph : Graph := .empty
  /-- The log that the passes append to. -/
  log : DiagnosticLog := .empty

namespace Step

/-- What a step does to a session. -/
def apply (step : Step) (s : Session) : Session :=
  match step with
  | addVar name type => { s with graph := (s.graph.addVar name type).2 }
  | addConstant values type => { s with graph := (s.graph.addConstant values type).2 }
  | addCall op inputs => { s with graph := (s.graph.addCall op inputs).2 }
  | make registry name inputs op => { s with graph := (registry.makeIn name s.graph inputs op).2 }
  | setType id type => { s with graph := (s.graph.setType id type).2 }
  | check registry config =>
    let p := s.graph.typeCheck registry config s.log
    { graph := p.graph, log := p.log }

/-- Whether a step is a typing pass. -/
def isCheck : Step → Bool
  | check _ _ => true
  | _ => false

/-- The inputs that a step gives to a node. -/
def inputs : Step → List NodeId
  | addCall _ inputs => inputs
  | make _ _ inputs _ => inputs
  | _ => []

/-- A step that leaves types to the passes: none is recorded by hand, and the registry that
builds a call builds it as the thresholding operator does. -/
def LeavesTypes : Step → Prop
  | make registry _ _ _ => registry.BuiltFrom OpDef.BuildsThresholdCalls
  | setType _ _ => False
  | _ => True

/-- **What a step can do** that leaves types to the passes. A call that is added has no type. -/
theorem apply_cases {step : Step} (h : step.LeavesTypes) :
    (∃ registry config, step = .check registry config) ∨
    step.isCheck = false ∧ ((∀ s, step.apply s = s) ∨
      ∃ node : Node, node.inputs = step.inputs ∧
        (node.op.isSource = false → node.type = .incomplete) ∧
        ∀ s, step.apply s = { s with graph := (s.graph.add node).2 }) := by
  cases step with
  | addVar name type =>
      exact Or.inr ⟨rfl, Or.inr ⟨_, rfl, fun h => absurd h (by simp [Op.isSource]), fun s => rfl⟩⟩
  | addConstant values type =>
      exact Or.inr ⟨rfl, Or.inr ⟨_, rfl, fun h => absurd h (by simp [Op.isSource]), fun s => rfl⟩⟩
  | addCall op inputs => exact Or.inr ⟨rfl, Or.inr ⟨_, rfl, fun _ => rfl, fun s => rfl⟩⟩
  | make registry name inputs op =>
      refine Or.inr ⟨rfl, ?_⟩
      rcases h.makeIn_spec name inputs op with ⟨-, hadds⟩ | ⟨-, e, hrefuses⟩
      · exact Or.inr ⟨_, rfl, fun _ => rfl, fun s => by rw [apply, hadds]⟩
      · exact Or.inl fun s => by rw [apply, hrefuses]
  | setType id type => exact h.elim
  | check registry config => exact Or.inl ⟨registry, config, rfl⟩

end Step

namespace Session

/-- What a session comes to by steps taken one after the other. -/
def run (s : Session) (steps : List Step) : Session := steps.foldl (fun s step => step.apply s) s

@[simp] theorem run_nil (s : Session) : s.run [] = s := rfl

@[simp] theorem run_cons (s : Session) (step : Step) (steps : List Step) :
    s.run (step :: steps) = (step.apply s).run steps := rfl

@[simp] theorem run_concat (s : Session) (steps : List Step) (step : Step) :
    s.run (steps ++ [step]) = step.apply (s.run steps) := by
  simp [run]

/-- Whatever a step gives to a node as an input names a node that is there. -/
def Grounded (s : Session) : List Step → Prop
  | [] => True
  | step :: steps => (∀ input ∈ step.inputs, input < s.graph.size) ∧ (step.apply s).Grounded steps

instance decidableGrounded : (s : Session) → (steps : List Step) → Decidable (s.Grounded steps)
  | _, [] => inferInstanceAs (Decidable True)
  | s, step :: steps =>
    have := decidableGrounded (step.apply s) steps
    inferInstanceAs (Decidable (_ ∧ _))

end Session

end Thresholding
