import Mathlib.Logic.Relation
import Thresholding.Proofs.Typing.Reports

/-!
# Thresholding.Proofs.Typing.Deferral

**Deferred calls, and what they wait for.**

A pass leaves a note on a call when an operand is no tensor, for the operand may become one. It
does not say what would have to happen. With operands before their users it can be said: from a
call that is deferred one comes, from operand to operand of deferred calls, to something that is
wrong by itself, a name without a node, a source without a tensor type or a call that the same pass
reports as an error (`Ordered.exists_rootCause`). So a pass without errors over typed sources defers
nothing.
-/

namespace Thresholding

namespace Graph

variable {registry : Registry} {config : Config} {g : Graph} {log : DiagnosticLog} {id : NodeId}

/-! ### Which calls are deferred -/

theorem typeNode_note_iff (hregistry : registry.BuiltFrom OpDef.IsVariant) (hid : id ∈ g.calls) :
    (∃ d, g.typeNode registry config id = .error d ∧ d.severity = .note) ↔
      (∃ attrs data thresholds, Applies registry g id attrs data thresholds) ∧
        ∃ operand ∈ g.inputs id, ∀ t, g.typeOf operand ≠ .tensor t := by
  obtain ⟨node, attrs, hnode, hop⟩ := mem_calls_iff_op.1 hid
  constructor
  · intro h
    obtain ⟨d, herror, hseverity⟩ := h
    rcases typeNode_error_cases hnode hop herror with
      rfl | ⟨_, rfl⟩ | ⟨definition, e, slots, hd, hlength, hrelation, rfl⟩
    · exact absurd hseverity (by simp)
    · exact absurd hseverity (by simp)
    · rw [hregistry.relation_eq hd, hop] at hrelation
      obtain ⟨_, _, _, hslots, huntyped⟩ := thresholdRelation_deferred_iff.1
        ⟨e, slots, hrelation, TypeError.severity_toDiagnostic_eq_note_iff.1 hseverity⟩
      obtain ⟨data, thresholds, hinputs, rfl, rfl⟩ := inputs_of_slots hslots
      have hnum : definition.numInputs = 2 := by rw [← hlength, hinputs]; rfl
      refine ⟨⟨attrs, data, thresholds, ⟨node, hnode, hop, hinputs⟩, definition, hd, hnum⟩, ?_⟩
      rw [inputs_eq hnode, hinputs]
      simpa using huntyped
  · intro h
    obtain ⟨⟨attrs', data, thresholds, happlies⟩, hoperand⟩ := h
    rw [happlies.inputs_eq] at hoperand
    have hfails : ∃ e, inferType (g.typeOf data) (g.typeOf thresholds) attrs' config = .error e ∧
        e.isDeferred = true := inferType_deferred_iff.2 (by simpa using hoperand)
    obtain ⟨e, hinfer, hdeferred⟩ := hfails
    refine ⟨e.toDiagnostic, ?_, TypeError.severity_toDiagnostic_eq_note_iff.2 hdeferred⟩
    rw [happlies.typeNode_eq hregistry, hinfer]

/-- **With operands before their users**, the deferred calls are those that their operator can be
asked about and that have an operand without a tensor type when the pass is over. -/
theorem Ordered.reportedAs_note_iff (hregistry : registry.BuiltFrom OpDef.IsVariant)
    (hordered : g.Ordered) :
    ReportedAs .note registry config log g id ↔
      (∃ attrs data thresholds, Applies registry g id attrs data thresholds) ∧
        ∃ operand ∈ g.inputs id,
          ∀ t, (g.typeCheck registry config log).graph.typeOf operand ≠ .tensor t := by
  have hretypes : Retypes g (g.typeCheck registry config log).graph := retypes_typeCheck
  have hfound : id ∈ g.calls → ((∃ d, g.found registry config log id = .error d ∧
      d.severity = .note) ↔ (∃ attrs data thresholds, Applies registry g id attrs data thresholds) ∧
        ∃ operand ∈ g.inputs id,
          ∀ t, (g.typeCheck registry config log).graph.typeOf operand ≠ .tensor t) := by
    intro hid
    rw [hordered.found_eq_typeNode hid, typeNode_note_iff hregistry (hretypes.calls_eq.symm ▸ hid)]
    simp only [hretypes.applies_iff, hretypes.inputs_eq]
  rw [reportedAs_iff_found]
  constructor
  · intro h
    exact (hfound h.1).1 h.2
  · intro h
    obtain ⟨_, _, _, happlies⟩ := h.1
    exact ⟨happlies.mem_calls, (hfound happlies.mem_calls).2 h⟩

/-! ### What they wait for -/

/-- A name that keeps its users from being typed and is not itself waiting for another one. -/
inductive RootCause (registry : Registry) (config : Config) (log : DiagnosticLog) (g : Graph) :
    NodeId → Prop
  /-- No node has the name. -/
  | missing {id : NodeId} : g.node? id = none → RootCause registry config log g id
  /-- It is a source without a tensor type. -/
  | untypedSource {id : NodeId} {node : Node} : g.node? id = some node → node.op.isSource = true →
      (∀ t, node.type ≠ .tensor t) → RootCause registry config log g id
  /-- It is a call that the pass reports as an error. -/
  | wrongCall {id : NodeId} : ReportedAs .error registry config log g id →
      RootCause registry config log g id

/-- A call is deferred and has a given operand. -/
def WaitsFor (registry : Registry) (config : Config) (log : DiagnosticLog) (g : Graph)
    (id operand : NodeId) : Prop :=
  ReportedAs .note registry config log g id ∧ operand ∈ g.inputs id

/-- A name without a tensor type after a pass is a cause or a deferred call. -/
theorem rootCause_or_note (hregistry : registry.BuiltFrom OpDef.IsVariant) (hordered : g.Ordered)
    (huntyped : ∀ t, (g.typeCheck registry config log).graph.typeOf id ≠ .tensor t) :
    RootCause registry config log g id ∨ ReportedAs .note registry config log g id := by
  have hretypes : Retypes g (g.typeCheck registry config log).graph := retypes_typeCheck
  cases hnode : g.node? id with
  | none => exact Or.inl (.missing hnode)
  | some node =>
      cases hsource : node.op.isSource with
      | true =>
          refine Or.inl (.untypedSource hnode hsource fun t ht => huntyped t ?_)
          rw [typeOf_eq (hretypes.source hnode hsource), ht]
      | false =>
          have hid : id ∈ g.calls := mem_calls.2 ⟨node, hnode, hsource⟩
          cases hfound : g.found registry config log id with
          | ok type =>
              obtain ⟨_, _, _, t, _, _, _, _, _, rfl⟩ := (typeNode_eq_ok_iff hregistry).1
                ((hordered.found_eq_typeNode hid).symm.trans hfound)
              exact absurd (typeOf_typeCheck_of_ok hid hfound) (huntyped t)
          | error d =>
              cases hseverity : d.severity with
              | error => exact Or.inl (.wrongCall (reportedAs_iff_found.2 ⟨hid, d, hfound, hseverity⟩))
              | note => exact Or.inr (reportedAs_iff_found.2 ⟨hid, d, hfound, hseverity⟩)

/-- **A deferred call has a cause**: operands of deferred calls lead to one. -/
theorem Ordered.exists_rootCause (hregistry : registry.BuiltFrom OpDef.IsVariant)
    (hordered : g.Ordered) (hnote : ReportedAs .note registry config log g id) :
    ∃ root, Relation.TransGen (WaitsFor registry config log g) id root ∧
      RootCause registry config log g root := by
  -- deferred calls have smaller and smaller names along the way
  induction id using Nat.strong_induction_on with
  | _ id ih =>
      obtain ⟨⟨_, _, _, happlies⟩, operand, hinput, huntyped⟩ :=
        (hordered.reportedAs_note_iff hregistry).1 hnote
      have hwaits : WaitsFor registry config log g id operand := ⟨hnote, hinput⟩
      rcases rootCause_or_note hregistry hordered huntyped with hroot | hnote'
      · exact ⟨operand, .single hwaits, hroot⟩
      · have hoperand : operand ∈ g.calls := (reportedAs_iff_found.1 hnote').1
        have hlt : operand < id := by
          rcases hordered id happlies.mem_calls operand hinput with hlt | hge
          · exact hlt
          · obtain ⟨node, hnode, -⟩ := mem_calls.1 hoperand
            rw [node?_eq_none_iff.2 hge] at hnode
            exact absurd hnode (by simp)
        obtain ⟨root, hpath, hroot⟩ := ih operand hlt hnote'
        exact ⟨root, .head hwaits hpath, hroot⟩

/-! ### Graphs in which nothing is missing -/

/-- Every source has a tensor type and every input of a call names a node. -/
structure Supplied (g : Graph) : Prop where
  /-- A source has a tensor type. -/
  sources : ∀ id node, g.node? id = some node → node.op.isSource = true →
    ∃ t, node.type = .tensor t
  /-- An input of a call names a node. -/
  inputs : ∀ id ∈ g.calls, ∀ input ∈ g.inputs id, input < g.size

theorem Supplied.not_note (hregistry : registry.BuiltFrom OpDef.IsVariant) (hordered : g.Ordered)
    (hsupplied : g.Supplied) (hnone : ∀ id, ¬ ReportedAs .error registry config log g id) :
    ¬ ReportedAs .note registry config log g id := by
  intro hnote
  obtain ⟨root, hpath, hroot⟩ := hordered.exists_rootCause hregistry hnote
  cases hroot with
  | missing hnode =>
      obtain ⟨user, -, hwaits⟩ := Relation.TransGen.tail'_iff.1 hpath
      have hlt := hsupplied.inputs user (reportedAs_iff_found.1 hwaits.1).1 root hwaits.2
      exact absurd hlt (Nat.not_lt.2 (node?_eq_none_iff.1 hnode))
  | untypedSource hnode hsource huntyped =>
      obtain ⟨t, ht⟩ := hsupplied.sources root _ hnode hsource
      exact huntyped t ht
  | wrongCall herror => exact hnone root herror

/-- A pass that reports no call neither as an error nor with a note resolves every call. -/
theorem typeCheck_of_not_reportedAs
    (hnone : ∀ severity id, ¬ ReportedAs severity registry config log g id) :
    (g.typeCheck registry config log).log = log ∧
      (g.typeCheck registry config log).resolved = g.calls.length := by
  have hfound : ∀ id ∈ g.calls, ∃ type, g.found registry config log id = .ok type := by
    intro id hid
    cases hfound : g.found registry config log id with
    | ok type => exact ⟨type, rfl⟩
    | error d => exact absurd (reportedAs_iff_found.2 ⟨hid, d, hfound, rfl⟩) (hnone d.severity id)
  constructor
  · have hnil : appended registry config log g = [] := by
      refine List.filterMap_eq_nil_iff.2 fun id hid => ?_
      obtain ⟨type, hok⟩ := hfound id hid
      rw [hok, reportOf]
    rw [log_typeCheck, hnil, DiagnosticLog.addAll_nil]
  · rw [typeCheck_found.1]
    refine List.countP_eq_length.2 fun id hid => ?_
    obtain ⟨type, hok⟩ := hfound id hid
    rw [hok]
    rfl

/-- **A note is never the last word.** With operands before their users: a pass leaves a note
exactly on the calls that can be asked about and have an operand without a tensor type when the pass
is over; from each of them operands of such calls lead to a cause; and a pass over a graph in which
nothing is missing reports nothing and counts every call, unless it reports an error. The types
that calls have before the pass may be any. -/
theorem notes_have_causes (hregistry : registry.BuiltFrom OpDef.IsVariant) (hordered : g.Ordered)
    (config : Config) (log : DiagnosticLog) :
    (∀ id, ReportedAs .note registry config log g id ↔
      (∃ attrs data thresholds, Applies registry g id attrs data thresholds) ∧
        ∃ operand ∈ g.inputs id,
          ∀ t, (g.typeCheck registry config log).graph.typeOf operand ≠ .tensor t) ∧
    (∀ id, ReportedAs .note registry config log g id →
      ∃ root, Relation.TransGen (WaitsFor registry config log g) id root ∧
        RootCause registry config log g root) ∧
    (g.Supplied → (∀ id, ¬ ReportedAs .error registry config log g id) →
      (g.typeCheck registry config log).log = log ∧
        (g.typeCheck registry config log).resolved = g.calls.length) := by
  refine ⟨?_, ?_, ?_⟩
  · intro id
    exact hordered.reportedAs_note_iff hregistry
  · intro id hnote
    exact hordered.exists_rootCause hregistry hnote
  · intro hsupplied hnone
    apply typeCheck_of_not_reportedAs
    intro severity id
    cases severity with
    | error => exact hnone id
    | note => exact hsupplied.not_note hregistry hordered hnone

/-- Thresholds, and data of which nothing is known; a call on that data, and one on its result; a
call with a bias of `1`, and one on its result; a call whose data is missing. -/
def waitingCalls : Graph where
  nodes := #[
    { op := .var "t", inputs := [], type := .tensor ⟨⟨[2, 4]⟩, .float32⟩, payload? := none },
    { op := .var "x", inputs := [], type := .incomplete, payload? := none },
    { op := .multiThreshold ⟨"UINT2", .zero⟩, inputs := [1, 0], type := .incomplete,
      payload? := none },
    { op := .multiThreshold ⟨"UINT2", .zero⟩, inputs := [2, 0], type := .incomplete,
      payload? := none },
    { op := .multiThreshold ⟨"UINT2", .ofInt .binary64 1⟩, inputs := [0, 0], type := .incomplete,
      payload? := none },
    { op := .multiThreshold ⟨"UINT2", .zero⟩, inputs := [0, 4], type := .incomplete,
      payload? := none },
    { op := .multiThreshold ⟨"UINT2", .zero⟩, inputs := [9, 0], type := .incomplete,
      payload? := none }]

/-- Two calls, one on the result of the other, on data and thresholds of known types. -/
def suppliedCalls : Graph where
  nodes := #[
    { op := .var "x", inputs := [], type := .tensor ⟨⟨[1, 2]⟩, .float32⟩, payload? := none },
    { op := .var "t", inputs := [], type := .tensor ⟨⟨[2, 4]⟩, .float32⟩, payload? := none },
    { op := .multiThreshold ⟨"UINT2", .zero⟩, inputs := [0, 1], type := .incomplete,
      payload? := none },
    { op := .multiThreshold ⟨"INT2", .ofInt .binary64 (-2)⟩, inputs := [2, 1],
      type := .incomplete, payload? := none }]

theorem notes_have_causes_waitingCalls :
    (waitingCalls.Ordered ∧ ReportedAs .note .builtin {} .empty waitingCalls 3 ∧
      ∃ root, Relation.TransGen (WaitsFor .builtin {} .empty waitingCalls) 3 root ∧
        RootCause .builtin {} .empty waitingCalls root) ∧
    (suppliedCalls.Ordered ∧ (suppliedCalls.typeCheck .builtin {} .empty).log = .empty ∧
      (suppliedCalls.typeCheck .builtin {} .empty).resolved = 2) := by
  have hnote : ReportedAs .note .builtin {} .empty waitingCalls 3 := by decide +kernel
  have hsupplied : suppliedCalls.Supplied := by
    constructor
    case sources =>
      intro id node hnode hsource
      match id with
      | 0 => cases hnode; exact ⟨_, rfl⟩
      | 1 => cases hnode; exact ⟨_, rfl⟩
      | 2 => cases hnode; exact absurd hsource (by decide)
      | 3 => cases hnode; exact absurd hsource (by decide)
      | id + 4 => exact absurd hnode (by simp [node?, suppliedCalls])
    case inputs => decide
  have hcalls : ∀ id ∈ suppliedCalls.calls,
      ¬ ReportedAs .error .builtin {} .empty suppliedCalls id := by decide +kernel
  have hnone : ∀ id, ¬ ReportedAs .error .builtin {} .empty suppliedCalls id :=
    fun id herror => hcalls id (reportedAs_iff_found.1 herror).1 herror
  have hwaiting : waitingCalls.Ordered := by decide
  have hordered : suppliedCalls.Ordered := by decide
  obtain ⟨-, hcause, -⟩ := notes_have_causes .builtin hwaiting {} .empty
  obtain ⟨-, -, hall⟩ := notes_have_causes .builtin hordered {} .empty
  exact ⟨⟨hwaiting, hnote, hcause 3 hnote⟩, hordered, hall hsupplied hnone⟩

/-- The notes and errors of the pass. -/
example : (waitingCalls.typeCheck .builtin {} .empty).log.entries.map
      (fun d => (d.node?, d.severity)) =
    [(some 2, .note), (some 3, .note), (some 4, .error), (some 5, .note), (some 6, .note)] := by
  decide +kernel

end Graph

end Thresholding
