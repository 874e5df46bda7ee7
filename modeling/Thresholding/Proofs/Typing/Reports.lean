import Thresholding.Proofs.Typing.OrderedPass
import Thresholding.Proofs.Typing.RepeatedPass

/-!
# Thresholding.Proofs.Typing.Reports

**What a pass says of each call.** When it comes to a call, it finds a type or it finds out why
there is none (`found`). The call resolves in the one case and is reported in the other, so what
is appended to the log can be told call by call (`exists_reported_iff`).

There are three reasons to report a call: its operator is not registered, it has another number of
inputs than the operator takes, or the relation of the operator refuses it
(`typeNode_error_cases`).
-/

namespace Thresholding

namespace Graph

variable {registry : Registry} {config : Config} {g : Graph} {log : DiagnosticLog} {id : NodeId}

/-! ### Calls that resolve -/

theorem resolves_iff_found : Resolves registry config log g id ↔
    id ∈ g.calls ∧ ∃ type, g.found registry config log id = .ok type := by
  constructor
  · intro h
    obtain ⟨k, type, hk, hok⟩ := h
    exact ⟨List.mem_of_getElem? hk, type, (found_eq hk).trans hok⟩
  · intro h
    obtain ⟨hid, type, hok⟩ := h
    obtain ⟨k, hk⟩ := List.getElem?_of_mem hid
    exact ⟨k, type, hk, (found_eq hk).symm.trans hok⟩

theorem not_resolves_iff (hid : id ∈ g.calls) : ¬ Resolves registry config log g id ↔
    ∃ d, g.found registry config log id = .error d := by
  rw [resolves_iff_found]
  cases g.found registry config log id with
  | ok type => simp [hid]
  | error d => simp

theorem typeOf_typeCheck_of_not_resolves (hid : id ∈ g.calls)
    (h : ¬ Resolves registry config log g id) :
    (g.typeCheck registry config log).graph.typeOf id = g.typeOf id := by
  obtain ⟨d, herror⟩ := (not_resolves_iff hid).1 h
  exact typeOf_typeCheck_of_error hid herror

/-! ### Calls that are reported -/

/-- The diagnostics that a pass appends, one for each call that it finds no type for. -/
def appended (registry : Registry) (config : Config) (log : DiagnosticLog) (g : Graph) :
    List Diagnostic :=
  g.calls.filterMap fun id => reportOf id (g.found registry config log id)

theorem log_typeCheck : (g.typeCheck registry config log).log =
    log.addAll (appended registry config log g) :=
  typeCheck_found.2

theorem mem_appended {d : Diagnostic} : d ∈ appended registry config log g ↔
    ∃ id ∈ g.calls, ∃ cause, g.found registry config log id = .error cause ∧
      cause.atNode id = d := by
  unfold appended
  rw [List.mem_filterMap]
  apply exists_congr
  intro id
  cases g.found registry config log id with
  | ok type => simp [reportOf]
  | error cause => simp [reportOf]

/-- What a pass appends is about calls that it finds no type for. -/
theorem exists_reported_iff {p : Diagnostic → Prop} :
    (∃ reported, (g.typeCheck registry config log).log.entries = log.entries ++ reported ∧
      ∃ d ∈ reported, p d) ↔
    ∃ id ∈ g.calls, ∃ cause, g.found registry config log id = .error cause ∧
      p (cause.atNode id) := by
  have hentries : (g.typeCheck registry config log).log.entries =
      log.entries ++ appended registry config log g := by
    rw [log_typeCheck, DiagnosticLog.entries_addAll]
  constructor
  · intro h
    obtain ⟨reported, hreported, d, hd, hp⟩ := h
    rw [hentries] at hreported
    rw [← List.append_cancel_left hreported] at hd
    obtain ⟨id, hid, cause, hfound, rfl⟩ := mem_appended.1 hd
    exact ⟨id, hid, cause, hfound, hp⟩
  · intro h
    obtain ⟨id, hid, cause, hfound, hp⟩ := h
    exact ⟨_, hentries, cause.atNode id, mem_appended.2 ⟨id, hid, cause, hfound, rfl⟩, hp⟩

/-- A pass reports a name: one of the diagnostics that it appends is about the name. -/
def Reported (registry : Registry) (config : Config) (log : DiagnosticLog) (g : Graph)
    (id : NodeId) : Prop :=
  ∃ reported, (g.typeCheck registry config log).log.entries = log.entries ++ reported ∧
    ∃ d ∈ reported, d.node? = some id

/-- A pass reports a name with a given severity. -/
def ReportedAs (severity : Severity) (registry : Registry) (config : Config)
    (log : DiagnosticLog) (g : Graph) (id : NodeId) : Prop :=
  ∃ reported, (g.typeCheck registry config log).log.entries = log.entries ++ reported ∧
    ∃ d ∈ reported, d.node? = some id ∧ d.severity = severity

theorem reportedAs_iff_found {severity : Severity} :
    ReportedAs severity registry config log g id ↔
      id ∈ g.calls ∧ ∃ d, g.found registry config log id = .error d ∧ d.severity = severity := by
  unfold ReportedAs
  rw [exists_reported_iff]
  constructor
  · intro h
    obtain ⟨other, hid, d, hfound, hnode, hseverity⟩ := h
    cases hnode
    exact ⟨hid, d, hfound, hseverity⟩
  · intro h
    obtain ⟨hid, d, hfound, hseverity⟩ := h
    exact ⟨id, hid, d, hfound, rfl, hseverity⟩

theorem reported_iff_found : Reported registry config log g id ↔
    id ∈ g.calls ∧ ∃ d, g.found registry config log id = .error d := by
  unfold Reported
  rw [exists_reported_iff]
  constructor
  · intro h
    obtain ⟨other, hid, d, hfound, hnode⟩ := h
    cases hnode
    exact ⟨hid, d, hfound⟩
  · intro h
    obtain ⟨hid, d, hfound⟩ := h
    exact ⟨id, hid, d, hfound, rfl⟩

instance : Decidable (Reported registry config log g id) :=
  decidable_of_iff (id ∈ g.calls ∧ (g.found registry config log id).isOk = false) <| by
    rw [reported_iff_found, isOk_eq_false_iff]

instance {severity : Severity} : Decidable (ReportedAs severity registry config log g id) :=
  decidable_of_iff (id ∈ g.calls ∧
      (reportOf id (g.found registry config log id)).any (·.severity = severity)) <| by
    rw [reportedAs_iff_found]
    cases g.found registry config log id with
    | ok type => simp [reportOf]
    | error d => simp [reportOf, Diagnostic.atNode]

theorem Reported.not_resolves (h : Reported registry config log g id) :
    ¬ Resolves registry config log g id := by
  obtain ⟨hid, hfound⟩ := reported_iff_found.1 h
  exact (not_resolves_iff hid).2 hfound

/-! ### Why a call is reported -/

theorem mem_calls_iff_op : id ∈ g.calls ↔
    ∃ node attrs, g.node? id = some node ∧ node.op = .multiThreshold attrs := by
  rw [mem_calls]
  apply exists_congr
  intro node
  cases node.op <;> simp [Op.isSource]

/-- **The three reasons to report a call.** -/
theorem typeNode_error_cases {node : Node} {attrs : ThresholdAttrs} {d : Diagnostic}
    (hnode : g.node? id = some node) (hop : node.op = .multiThreshold attrs)
    (h : g.typeNode registry config id = .error d) :
    d = { severity := .error
          message := s!"operator `{Op.multiThresholdName}` is not registered" } ∨
    (∃ found, d = { severity := .error
                    message := (RegistryError.arity Op.multiThresholdName found
                      node.inputs.length).message }) ∨
    ∃ definition e slots, registry.get? Op.multiThresholdName = some definition ∧
      node.inputs.length = definition.numInputs ∧
      definition.relation node.op config (g.slots node) = (.error e, slots) ∧ d = e.toDiagnostic := by
  have hname : node.op.name? = some Op.multiThresholdName := by rw [hop]; rfl
  simp only [typeNode, Registry.typeSlots, hnode, hname] at h
  cases hd : registry.get? Op.multiThresholdName with
  | none =>
      rw [hd] at h
      cases h
      exact Or.inl rfl
  | some definition =>
      simp only [hd] at h
      split at h
      · next hinputs =>
          split at h
          · exact absurd h (by simp)
          · next e slots hrelation =>
              cases h
              exact Or.inr (Or.inr ⟨definition, e, slots, rfl, hinputs, hrelation, rfl⟩)
      · cases h
        exact Or.inr (Or.inl ⟨definition.numInputs, rfl⟩)

end Graph

end Thresholding
