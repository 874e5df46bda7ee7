import Thresholding.Proofs.Session.History

/-!
# Thresholding.Proofs.Session.Storage

**Sessions on what is stored**: a host works on an arena, whose counter, stored names and values
have to stay in step over all that it does.

A step on the arena that stores a graph leaves the arena that stores the graph after the step, and
the same log (`Step.applyStored_stored`). So a run from nothing stores the graph of the same run on
graphs (`StoredSession.run_eq`), of which is known how it came to be. What a host finds in the arena
by name is read off both (`StoredSession.staysInStep`).
-/

namespace Thresholding

/-! ### Typing what is stored -/

/-- How far the same pass has come over the arena that stores the graph. -/
def PassState.stored (s : PassState) : StoredPass :=
  { arena := s.graph.toArena, resolved := s.resolved, log := s.log }

namespace Graph

variable {registry : Registry} {config : Config}

theorem slots_toArena (g : Graph) (id : NodeId) (node : Node) :
    g.toArena.slots (node.stored id) = g.slots node := by
  rw [Arena.slots, slots]
  congr 1
  exact List.map_congr_left fun input _ => typeOf_toArena g input

theorem typeNode_toArena (g : Graph) (id : NodeId) :
    g.toArena.typeNode registry config id = g.typeNode registry config id := by
  rw [Arena.typeNode, node?_toArena, typeNode]
  cases g.node? id with
  | none => rfl
  | some node =>
      exact congrArg (registry.typeSlots config node.op node.inputs) (slots_toArena g id node)

theorem typeCall_stored (s : PassState) (id : NodeId) :
    Arena.typeCall registry config s.stored id = (typeCall registry config s id).stored := by
  have hanswer : s.stored.arena.typeNode registry config id =
      s.graph.typeNode registry config id := typeNode_toArena s.graph id
  rw [Arena.typeCall, typeCall, hanswer]
  cases s.graph.typeNode registry config id with
  | ok type =>
      dsimp only [PassState.stored]
      rw [setType_toArena]
  | error d => rfl

/-- **A pass over an arena** is the pass over the graph that it stores. -/
theorem typeCheck_toArena (g : Graph) (log : DiagnosticLog) :
    g.toArena.typeCheck registry config log = (g.typeCheck registry config log).stored := by
  rw [Arena.typeCheck, calls_toArena, typeCheck,
    ← List.foldl_hom PassState.stored (fun s id => typeCall_stored s id)]
  rfl

end Graph

/-! ### One step -/

/-- What a host works on, with the graph as it is stored. -/
structure StoredSession where
  /-- The arena. -/
  arena : Arena := .empty
  /-- The log that the passes append to. -/
  log : DiagnosticLog := .empty

/-- The session on the arena that stores the graph. -/
def Session.stored (s : Session) : StoredSession := { arena := s.graph.toArena, log := s.log }

namespace Step

/-- What a step does to what is stored. -/
def applyStored (step : Step) (s : StoredSession) : StoredSession :=
  match step with
  | addVar name type => { s with arena := (s.arena.addVar name type).2 }
  | addConstant values type => { s with arena := (s.arena.addConstant values type).2 }
  | addCall op inputs => { s with arena := (s.arena.addCall op inputs).2 }
  | make registry name inputs op => { s with arena := (registry.make name s.arena inputs op).2 }
  | setType id type => { s with arena := (s.arena.setType id type).2 }
  | check registry config =>
    let p := s.arena.typeCheck registry config s.log
    { arena := p.arena, log := p.log }

/-- The name that a step answers with, if it answers with one. -/
def name? : Step → Arena → Option NodeId
  | addVar name type, a => some (a.addVar name type).1
  | addConstant values type, a => some (a.addConstant values type).1
  | addCall op inputs, a => some (a.addCall op inputs).1
  | make registry name inputs op, a => (registry.make name a inputs op).1.toOption
  | setType _ _, _ => none
  | check _ _, _ => none

variable {step : Step}

/-- **A step on what is stored** is the step on the graph. -/
theorem applyStored_stored (h : step.BuildsCalls) (s : Session) :
    step.applyStored s.stored = (step.apply s).stored := by
  cases step with
  | addVar name type => rw [applyStored, Session.stored, Graph.addVar_toArena]; rfl
  | addConstant values type => rw [applyStored, Session.stored, Graph.addConstant_toArena]; rfl
  | addCall op inputs => rw [applyStored, Session.stored, Graph.addCall_toArena]; rfl
  | make registry name inputs op =>
      have hregistry : registry.BuiltFrom OpDef.BuildsThresholdCalls := h
      rw [applyStored, Session.stored, hregistry.make_toArena]
      rfl
  | setType id type => rw [applyStored, Session.stored, Graph.setType_toArena]; rfl
  | check registry config => rw [applyStored, Session.stored, Graph.typeCheck_toArena]; rfl

/-- A step answers with the next name just when it creates a node. -/
theorem name?_eq (h : step.BuildsCalls) (a : Arena) :
    step.name? a = step.created?.map fun _ => a.nextId := by
  cases step with
  | make registry name inputs op =>
      rcases h.make_spec name inputs op with ⟨hbuildable, hadds⟩ | ⟨hbuildable, e, hrefuses⟩
      · rw [name?, hadds, created?, if_pos hbuildable]
        rfl
      · rw [name?, hrefuses, created?, if_neg hbuildable]
        rfl
  | _ => rfl

/-- **A step keeps the parts of an arena in step.** -/
theorem inStep_applyStored (h : step.BuildsCalls) {s : StoredSession} (hs : s.arena.InStep) :
    (step.applyStored s).arena.InStep := by
  have hstored : s = Session.stored { graph := s.arena.toGraph, log := s.log } := by
    rw [Session.stored, hs.toArena_toGraph]
  rw [hstored, applyStored_stored h]
  exact Graph.inStep_toArena _

end Step

/-! ### The whole run -/

/-- What a list that is filtered holds at a position comes from an element, behind as many as come
from the elements before it. -/
theorem getElem?_filterMap_eq_some_iff {α β : Type} {f : α → Option β} {l : List α} {i : Nat}
    {b : β} :
    (l.filterMap f)[i]? = some b ↔ ∃ before a after, l = before ++ a :: after ∧ f a = some b ∧
      (before.filterMap f).length = i := by
  constructor
  · intro h
    induction l generalizing i with
    | nil => exact absurd h (by simp)
    | cons x l ih =>
        cases hx : f x with
        | none =>
            rw [List.filterMap_cons_none hx] at h
            obtain ⟨before, a, after, rfl, ha, hi⟩ := ih h
            exact ⟨x :: before, a, after, rfl, ha, by rw [List.filterMap_cons_none hx, hi]⟩
        | some y =>
            rw [List.filterMap_cons_some hx] at h
            cases i with
            | zero => exact ⟨[], x, l, rfl, hx.trans h, rfl⟩
            | succ i =>
                obtain ⟨before, a, after, rfl, ha, hi⟩ := ih h
                exact ⟨x :: before, a, after, rfl, ha, by
                  rw [List.filterMap_cons_some hx, List.length_cons, hi]⟩
  · rintro ⟨before, a, after, rfl, ha, rfl⟩
    simp [List.filterMap_append, ha]

namespace StoredSession

variable {steps : List Step} {step : Step} {id : NodeId}

/-- What is stored after steps taken one after the other. -/
def run (s : StoredSession) (steps : List Step) : StoredSession :=
  steps.foldl (fun s step => step.applyStored s) s

/-- **A run keeps the parts of an arena in step.** -/
theorem inStep_run (hsteps : ∀ step ∈ steps, step.BuildsCalls) {s : StoredSession}
    (hs : s.arena.InStep) : (s.run steps).arena.InStep := by
  induction steps generalizing s with
  | nil => exact hs
  | cons step steps ih =>
      obtain ⟨hstep, hrest⟩ := List.forall_mem_cons.1 hsteps
      exact ih hrest (Step.inStep_applyStored hstep hs)

/-- **A run on what is stored** is the run on the graph. -/
theorem run_stored (hsteps : ∀ step ∈ steps, step.BuildsCalls) (s : Session) :
    run s.stored steps = (s.run steps).stored := by
  induction steps generalizing s with
  | nil => rfl
  | cons step steps ih =>
      obtain ⟨hstep, hrest⟩ := List.forall_mem_cons.1 hsteps
      rw [run, List.foldl_cons, Step.applyStored_stored hstep]
      exact ih hrest (step.apply s)

/-- What is stored after steps from nothing is the graph of the session that takes them. -/
theorem run_eq (hsteps : ∀ step ∈ steps, step.BuildsCalls) :
    run {} steps = (Session.run {} steps).stored := by
  have hempty : Session.stored {} = {} := by
    rw [Session.stored, Graph.toArena_empty]
  rw [← run_stored hsteps, hempty]

theorem arena_run (hsteps : ∀ step ∈ steps, step.BuildsCalls) :
    (run {} steps).arena = (Session.run {} steps).graph.toArena := by
  rw [run_eq hsteps]
  rfl

theorem size_arena_run (hsteps : ∀ step ∈ steps, step.BuildsCalls) :
    (run {} steps).arena.size = (Session.created steps).length := by
  rw [arena_run hsteps, ← Session.size_run hsteps]
  simp [Arena.size, Graph.toArena, Graph.size]

theorem nextId_run (hsteps : ∀ step ∈ steps, step.BuildsCalls) :
    (run {} steps).arena.nextId = (Session.created steps).length := by
  rw [arena_run hsteps, ← Session.size_run hsteps]
  rfl

/-- The names that steps answer with when they are taken from a session on, in order. -/
def names (s : StoredSession) : List Step → List NodeId
  | [] => []
  | step :: steps => (step.name? s.arena).toList ++ (step.applyStored s).names steps

theorem names_concat (s : StoredSession) (steps : List Step) (step : Step) :
    s.names (steps ++ [step]) = s.names steps ++ (step.name? (s.run steps).arena).toList := by
  induction steps generalizing s with
  | nil => simp [names, run]
  | cons first steps ih => simp [names, ih, run]

/-- A name was answered by a step, among steps that were taken from the start. -/
def NamedBy (steps : List Step) (id : NodeId) (step : Step) : Prop :=
  ∃ before after, steps = before ++ step :: after ∧ step.name? (run {} before).arena = some id

/-- **The names count up**: a host is answered with the names of all nodes, in order. -/
theorem names_run (hsteps : ∀ step ∈ steps, step.BuildsCalls) :
    names {} steps = List.range (Session.created steps).length := by
  induction steps using List.reverseRecOn with
  | nil => rfl
  | append_singleton before step ih =>
      obtain ⟨hbefore, hstep⟩ := List.forall_mem_append.1 hsteps
      rw [names_concat, ih hbefore, Step.name?_eq (hstep step List.mem_cons_self),
        nextId_run hbefore]
      cases hcreated : step.created? with
      | none => simp [Session.created_concat_none hcreated]
      | some node => simp [Session.created_concat_some hcreated, List.range_succ]

/-- A name belongs to the step that created the node at its place. -/
theorem getElem?_created_eq_some_iff (hsteps : ∀ step ∈ steps, step.BuildsCalls) {node : Node} :
    (Session.created steps)[id]? = some node ↔
      ∃ step, NamedBy steps id step ∧ step.created? = some node := by
  have hname : ∀ before step after, steps = before ++ step :: after →
      ∀ node, step.created? = some node →
        step.name? (run {} before).arena = some (Session.created before).length := by
    rintro before step after rfl node hcreated
    obtain ⟨hbefore, hrest⟩ := List.forall_mem_append.1 hsteps
    rw [Step.name?_eq (hrest step List.mem_cons_self), hcreated, nextId_run hbefore]
    rfl
  constructor
  · intro h
    obtain ⟨before, step, after, heq, hcreated, rfl⟩ := getElem?_filterMap_eq_some_iff.1 h
    exact ⟨step, ⟨before, after, heq, hname before step after heq node hcreated⟩, hcreated⟩
  · rintro ⟨step, ⟨before, after, heq, hid⟩, hcreated⟩
    refine getElem?_filterMap_eq_some_iff.2 ⟨before, step, after, heq, hcreated, ?_⟩
    exact Option.some.inj ((hname before step after heq node hcreated).symm.trans hid)

/-- A step that answers with a name has created a node. -/
theorem NamedBy.exists_created? (hsteps : ∀ step ∈ steps, step.BuildsCalls)
    (h : NamedBy steps id step) : ∃ node, step.created? = some node := by
  obtain ⟨before, after, rfl, hid⟩ := h
  have hbuilds := hsteps step (by simp)
  refine Option.ne_none_iff_exists'.1 fun hnone => ?_
  rw [Step.name?_eq hbuilds, hnone] at hid
  exact absurd hid (by simp)

/-- Under the name that a step answered with there is the node that it created, but for its type. -/
theorem NamedBy.node?_eq (hsteps : ∀ step ∈ steps, step.BuildsCalls) (h : NamedBy steps id step) :
    ∃ node, step.created? = some node ∧ (run {} steps).arena.node? id =
      some { node.stored id with type := (run {} steps).arena.typeOf id } := by
  obtain ⟨node, hcreated⟩ := h.exists_created? hsteps
  refine ⟨node, hcreated, ?_⟩
  rw [arena_run hsteps, Graph.node?_toArena, Graph.typeOf_toArena, Session.node?_run hsteps,
    (getElem?_created_eq_some_iff hsteps).2 ⟨step, h, hcreated⟩]
  rfl

/-- The values that are kept are those that the nodes were created with. -/
theorem payload?_run (hsteps : ∀ step ∈ steps, step.BuildsCalls) (id : NodeId) :
    (run {} steps).arena.payload? id = (Session.created steps)[id]?.bind (·.payload?) := by
  rw [arena_run hsteps]
  change (Session.run {} steps).graph.payload? id = _
  rw [Graph.payload?, Session.node?_run hsteps]
  cases (Session.created steps)[id]? <;> rfl

/-- What holds of the arena that steps lead to, and of the next step. -/
structure StaysInStep (steps : List Step) : Prop where
  /-- Stored names are positions, the counter is the number of nodes, and values are kept for nodes
  only. -/
  inStep : (run {} steps).arena.InStep
  /-- The names that were answered count up from `0`, and are as many as there are nodes. -/
  names_eq : names {} steps = List.range (run {} steps).arena.size
  /-- The search finds a node for each of them, and for no other name. -/
  isSome_iff : ∀ id, ((run {} steps).arena.node? id).isSome = true ↔
    id < (run {} steps).arena.size
  /-- Each of them was answered by some step. -/
  named_iff : ∀ id, id < (run {} steps).arena.size ↔ ∃ step, NamedBy steps id step
  /-- The node is the one that this step created, but for its type. -/
  node?_eq : ∀ id step, NamedBy steps id step → ∃ node, step.created? = some node ∧
    (run {} steps).arena.node? id =
      some { node.stored id with type := (run {} steps).arena.typeOf id }
  /-- Values are kept for a name just when a constant was added under it, and they are the values
  that it was added with. -/
  payload?_eq_some_iff : ∀ id values, (run {} steps).arena.payload? id = some values ↔
    ∃ type, NamedBy steps id (.addConstant values type)
  /-- A next step that creates a node stores just this one and answers with the next name. Unless
  the node is a free input or a constant, it has no type then. -/
  stores : ∀ (step : Step) (node : Node), step.BuildsCalls → step.created? = some node →
    step.name? (run {} steps).arena = some (run {} steps).arena.nextId ∧
    (step.applyStored (run {} steps)).arena = (run {} steps).arena.store node ∧
    (step.givesType = false → node.type = .incomplete)
  /-- Any other next step answers with no name and changes types at most. -/
  keeps : ∀ step : Step, step.BuildsCalls → step.created? = none →
    step.name? (run {} steps).arena = none ∧
    (run {} steps).arena.SameButTypes (step.applyStored (run {} steps)).arena
  /-- A registry builds a call for a registered name, two inputs and a thresholding operator, and
  it is added as by hand. Otherwise the arena stays what it is. -/
  builds : ∀ registry : Registry, registry.BuiltFrom OpDef.BuildsThresholdCalls →
    registry.BuildsIn (run {} steps).arena
  /-- A type is recorded on the node that is named, and on no other. For an unknown name the arena
  stays what it is. -/
  setType_eq : ∀ id type, (run {} steps).arena.setType id type =
    if id < (run {} steps).arena.size then
      (true, { (run {} steps).arena with
        nodes := (run {} steps).arena.nodes.modify id fun node => { node with type } })
    else (false, (run {} steps).arena)
  /-- What is stored is the graph of the session that takes the same steps. -/
  toGraph_eq : (run {} steps).arena.toGraph = (Session.run {} steps).graph

/-- **An arena stays in step and keeps what was added to it**, whatever else a host does. -/
theorem staysInStep (hsteps : ∀ step ∈ steps, step.BuildsCalls) : StaysInStep steps := by
  have hinStep : (run {} steps).arena.InStep := inStep_run hsteps Arena.inStep_empty
  constructor
  case inStep => exact hinStep
  case names_eq => rw [size_arena_run hsteps, names_run hsteps]
  case isSome_iff =>
    intro id
    rw [hinStep.node?_eq]
    simp [Arena.size]
  case named_iff =>
    intro id
    have hplace : id < (Session.created steps).length ↔
        ∃ node, (Session.created steps)[id]? = some node := by
      simp [← Option.isSome_iff_exists]
    rw [size_arena_run hsteps, hplace]
    constructor
    · rintro ⟨node, hnode⟩
      obtain ⟨step, hnamed, -⟩ := (getElem?_created_eq_some_iff hsteps).1 hnode
      exact ⟨step, hnamed⟩
    · rintro ⟨step, hnamed⟩
      obtain ⟨node, hcreated⟩ := hnamed.exists_created? hsteps
      exact ⟨node, (getElem?_created_eq_some_iff hsteps).2 ⟨step, hnamed, hcreated⟩⟩
  case node?_eq => exact fun id step hnamed => hnamed.node?_eq hsteps
  case payload?_eq_some_iff =>
    intro id values
    rw [payload?_run hsteps, Option.bind_eq_some_iff]
    constructor
    · rintro ⟨node, hnode, hvalues⟩
      obtain ⟨step, hnamed, hcreated⟩ := (getElem?_created_eq_some_iff hsteps).1 hnode
      obtain ⟨type, rfl⟩ := (Step.payload?_of_created? hcreated).1 hvalues
      exact ⟨type, hnamed⟩
    · rintro ⟨type, hnamed⟩
      exact ⟨_, (getElem?_created_eq_some_iff hsteps).2 ⟨_, hnamed, rfl⟩, rfl⟩
  case stores =>
    intro step node hbuilds hcreated
    refine ⟨?_, ?_, Step.type_of_created? hcreated⟩
    · rw [Step.name?_eq hbuilds, hcreated]
      rfl
    · rw [run_eq hsteps, Step.applyStored_stored hbuilds]
      change (step.apply (Session.run {} steps)).graph.toArena = _
      rw [Step.adds_of_created? hbuilds hcreated, Graph.toArena_add]
      rfl
  case keeps =>
    intro step hbuilds hcreated
    refine ⟨by rw [Step.name?_eq hbuilds, hcreated]; rfl, ?_⟩
    rw [run_eq hsteps, Step.applyStored_stored hbuilds]
    exact (Step.keeps_of_created? hbuilds hcreated _).toArena
  case builds => exact fun registry hregistry => hregistry.buildsIn _
  case setType_eq => exact hinStep.setType_eq
  case toGraph_eq => rw [arena_run hsteps, Graph.toGraph_toArena]

/-- The operators of this library, and the thresholding operator under a second name. -/
def twoNames : Registry := (Registry.builtin.register { OpDef.multiThreshold with name := "Steps" }).2

/-- Two calls are built and two are refused; a type is recorded by hand, and one for no node. -/
def mixedSteps : List Step := [
  .addVar "x" (.tensor ⟨⟨[1, 2]⟩, .float32⟩),
  .addConstant [.zero] .incomplete,
  .make .builtin Op.multiThresholdName [0, 1] (.multiThreshold ⟨"UINT1", .zero⟩),
  .make .builtin "Steps" [0, 1] (.multiThreshold ⟨"UINT1", .zero⟩),
  .setType 1 (.tensor ⟨⟨[1, 2]⟩, .float32⟩),
  .check .builtin {},
  .setType 9 .incomplete,
  .make twoNames "Steps" [2, 9] (.multiThreshold ⟨"INT", .zero⟩),
  .make twoNames "Steps" [2] .constant]

theorem staysInStep_mixedSteps :
    (∀ step ∈ mixedSteps, step.BuildsCalls) ∧ StaysInStep mixedSteps := by
  have hregistry : twoNames.BuiltFrom OpDef.BuildsThresholdCalls := .register .builtin rfl
  have hsteps : ∀ step ∈ mixedSteps, step.BuildsCalls := by
    simp [mixedSteps, Step.BuildsCalls, Registry.BuiltFrom.builtin, hregistry]
  exact ⟨hsteps, staysInStep hsteps⟩

/-- The calls get the names `2` and `3`, and the constant keeps its values under its new type. -/
example : names {} mixedSteps = [0, 1, 2, 3] ∧
    (run {} mixedSteps).arena.payload? 1 = some [.zero] ∧
    (run {} mixedSteps).arena.typeOf 2 = .tensor ⟨⟨[1, 2]⟩, .float32⟩ := by
  decide +kernel

end StoredSession

end Thresholding
