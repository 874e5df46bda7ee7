import Thresholding.Proofs.Typing.Reports

/-!
# Thresholding.Proofs.Typing.Accounting

**A pass accounts for every call**: it counts the call or it reports it, once and at its node, and
it changes nothing else. This asks nothing of the graph, of the recorded types or of the registry.

The log keeps up to date whether one of its diagnostics is an error. That is right for the logs that
come to be by reporting, typing and clearing (`DiagnosticLog.Reachable`).
-/

namespace Thresholding

open Thresholding.Graph

/-! ### Logs -/

/-- The logs that a host can come to, from the empty one on. -/
inductive DiagnosticLog.Reachable : DiagnosticLog → Prop
  /-- The log without diagnostics. -/
  | empty : Reachable .empty
  /-- One diagnostic more. -/
  | add {log : DiagnosticLog} (d : Diagnostic) : Reachable log → Reachable (log.add d)
  /-- What a typing pass appends. -/
  | typeCheck {log : DiagnosticLog} (g : Graph) (registry : Registry) (config : Config) :
      Reachable log → Reachable (g.typeCheck registry config log).log
  /-- All diagnostics are forgotten. -/
  | clear {log : DiagnosticLog} : Reachable log → Reachable log.clear

/-- What a log says of errors is what its diagnostics say. -/
def DiagnosticLog.Faithful (log : DiagnosticLog) : Prop :=
  log.hasErrors = true ↔ ∃ d ∈ log.entries, d.isError = true

theorem DiagnosticLog.faithful_empty : empty.Faithful := by
  simp [Faithful, empty]

theorem DiagnosticLog.Faithful.add {log : DiagnosticLog} (h : log.Faithful) (d : Diagnostic) :
    (log.add d).Faithful := by
  unfold Faithful at h ⊢
  simp only [entries_add, List.mem_append, List.mem_singleton, or_and_right, exists_or,
    exists_eq_left, ← h]
  simp [DiagnosticLog.add]

theorem DiagnosticLog.Faithful.addAll {log : DiagnosticLog} (h : log.Faithful)
    (reported : List Diagnostic) : (log.addAll reported).Faithful := by
  induction reported generalizing log with
  | nil => exact h
  | cons d rest ih => exact ih (h.add d)

theorem DiagnosticLog.Reachable.faithful {log : DiagnosticLog} (h : log.Reachable) :
    log.Faithful := by
  induction h with
  | empty => exact faithful_empty
  | add d _ ih => exact ih.add d
  | typeCheck g registry config _ ih =>
      rw [log_typeCheck]
      exact ih.addAll _
  | clear _ _ => exact faithful_empty

namespace Graph

variable {registry : Registry} {config : Config} {g : Graph} {log : DiagnosticLog} {id : NodeId}

/-! ### One diagnostic for each call that is not resolved -/

/-- Reports stand at the calls that no type was found for, in the same order. -/
theorem map_node_filterMap_reportOf (found : NodeId → Except Diagnostic ExprType)
    (ids : List NodeId) :
    (ids.filterMap fun id => reportOf id (found id)).map (·.node?) =
      (ids.filter fun id => !(found id).isOk).map some := by
  induction ids with
  | nil => rfl
  | cons id rest ih =>
      cases h : found id with
      | ok type => simpa [h, reportOf] using ih
      | error d => simpa [h, reportOf, Diagnostic.atNode] using ih

/-- The calls that a pass finds no type for. -/
def unresolved (registry : Registry) (config : Config) (log : DiagnosticLog) (g : Graph) :
    List NodeId :=
  g.calls.filter fun id => !(g.found registry config log id).isOk

theorem mem_unresolved : id ∈ unresolved registry config log g ↔
    id ∈ g.calls ∧ ¬ Resolves registry config log g id := by
  rw [unresolved, List.mem_filter, Bool.not_eq_true', isOk_eq_false_iff]
  apply and_congr_right
  intro hid
  exact (not_resolves_iff hid).symm

theorem map_node_appended : (appended registry config log g).map (·.node?) =
    (unresolved registry config log g).map some :=
  map_node_filterMap_reportOf (g.found registry config log) g.calls

theorem resolved_add_length_unresolved :
    (g.typeCheck registry config log).resolved + (unresolved registry config log g).length =
      g.calls.length := by
  rw [typeCheck_found.1, unresolved, ← List.countP_eq_length_filter]
  simpa using (List.length_eq_countP_add_countP
    (fun id => (g.found registry config log id).isOk) (l := g.calls)).symm

/-! ### The texts of the reports -/

/-- How the text of a report on a call begins. -/
theorem message_of_typeNode_error {d : Diagnostic} (hid : id ∈ g.calls)
    (h : g.typeNode registry config id = .error d) :
    ∃ start ∈ ["operator `", "`", "MultiThreshold: "], ∃ rest, d.message = start ++ rest := by
  obtain ⟨node, attrs, hnode, hop⟩ := mem_calls_iff_op.1 hid
  rcases typeNode_error_cases hnode hop h with
    rfl | ⟨found, rfl⟩ | ⟨_, e, _, _, _, _, rfl⟩
  · exact ⟨"operator `", by simp, _, String.append_assoc⟩
  · rw [RegistryError.message.eq_def]
    simp only [String.append_assoc]
    exact ⟨"`", by simp, _, rfl⟩
  · exact ⟨"MultiThreshold: ", by simp, _, rfl⟩

/-- So no report says that there is no such node or that the node is a source. -/
theorem message_ne_of_typeNode_error {d : Diagnostic} (hid : id ∈ g.calls)
    (h : g.typeNode registry config id = .error d) :
    d.message ≠ "source node has no type relation" ∧
      ∀ other : NodeId, d.message ≠ "unknown node " ++ NodeId.text other := by
  obtain ⟨start, hstart, rest, hmessage⟩ := message_of_typeNode_error hid h
  have hletter : d.message.toList.head? ∈ [some 'o', some '`', some 'M'] := by
    rw [hmessage, String.toList_append, List.head?_append]
    simp only [List.mem_cons, List.not_mem_nil, or_false] at hstart
    rcases hstart with rfl | rfl | rfl <;> simp
  constructor
  · intro heq
    rw [heq] at hletter
    simp at hletter
  · intro other heq
    rw [heq, String.toList_append, List.head?_append] at hletter
    simp at hletter

/-! ### The account of a pass -/

/-- What a pass reports, and that it leaves everything else alone. -/
structure Accounts (registry : Registry) (config : Config) (log : DiagnosticLog) (g : Graph)
    (ids : List NodeId) (reported : List Diagnostic) : Prop where
  /-- The calls of the list are those that the pass does not resolve. -/
  mem_iff : ∀ id, id ∈ ids ↔ id ∈ g.calls ∧ ¬ Resolves registry config log g id
  /-- They stand in the order of their names, each of them once. -/
  increasing : ids.Pairwise (· < ·)
  /-- Each of them is reported by one diagnostic, which is about it. -/
  nodes : reported.map (·.node?) = ids.map some
  /-- These diagnostics are appended to the log. -/
  appended : (g.typeCheck registry config log).log.entries = log.entries ++ reported
  /-- The pass counts the other calls. -/
  counted : (g.typeCheck registry config log).resolved + reported.length = g.calls.length
  /-- No diagnostic says that a call is no node, or a source. -/
  messages : ∀ d ∈ reported, d.message ≠ "source node has no type relation" ∧
    ∀ other : NodeId, d.message ≠ "unknown node " ++ NodeId.text other
  /-- The log tells whether one of its diagnostics is an error. -/
  faithful : (g.typeCheck registry config log).log.hasErrors = true ↔
    ∃ d ∈ (g.typeCheck registry config log).log.entries, d.isError = true
  /-- There are as many nodes as before. -/
  size_eq : (g.typeCheck registry config log).graph.size = g.size
  /-- A source is as it was, and a call is but for its type. -/
  node : ∀ id node, g.node? id = some node →
    if node.op.isSource then (g.typeCheck registry config log).graph.node? id = some node
    else ∃ type, (g.typeCheck registry config log).graph.node? id = some { node with type }
  /-- A call that the pass does not resolve has the type that it had. -/
  kept : ∀ id ∈ ids, (g.typeCheck registry config log).graph.typeOf id = g.typeOf id

/-- **A pass accounts for every call**, on every graph, from any recorded types and with any
registry. -/
theorem accounts_typeCheck (registry : Registry) (config : Config) {log : DiagnosticLog}
    (hlog : log.Reachable) (g : Graph) :
    ∃ ids reported, Accounts registry config log g ids reported := by
  have hretypes : Retypes g (g.typeCheck registry config log).graph := retypes_typeCheck
  refine ⟨unresolved registry config log g, Graph.appended registry config log g, ?_⟩
  constructor
  case mem_iff =>
    intro id
    exact mem_unresolved
  case increasing => exact g.calls_pairwise_lt.filter _
  case nodes => exact map_node_appended
  case appended => rw [log_typeCheck, DiagnosticLog.entries_addAll]
  case counted =>
    have hlength : (Graph.appended registry config log g).length =
        (unresolved registry config log g).length := by
      simpa using congrArg List.length (map_node_appended (g := g))
    rw [hlength, resolved_add_length_unresolved]
  case messages =>
    intro d hd
    obtain ⟨id, hid, cause, hfound, rfl⟩ := mem_appended.1 hd
    have hmessage := message_ne_of_typeNode_error (mem_calls_passState _ hid) hfound
    exact hmessage
  case faithful => exact (hlog.typeCheck g registry config).faithful
  case size_eq => exact hretypes.size_eq
  case node =>
    intro id node hnode
    cases hsource : node.op.isSource with
    | true => exact hretypes.source hnode hsource
    | false => exact ⟨_, hretypes.call hnode hsource⟩
  case kept =>
    intro id hid
    obtain ⟨hid, hunresolved⟩ := mem_unresolved.1 hid
    exact typeOf_typeCheck_of_not_resolves hid hunresolved

/-- A call on itself, which has a type by hand; a call on a later name, which is a source and has an
input; a call with one input. -/
def tangledCalls : Graph where
  nodes := #[
    { op := .multiThreshold ⟨"UINT2", .zero⟩, inputs := [0, 2],
      type := .tensor ⟨⟨[1, 2]⟩, .float32⟩, payload? := none },
    { op := .multiThreshold ⟨"INT2", .zero⟩, inputs := [0, 2], type := .tuple [],
      payload? := none },
    { op := .constant, inputs := [1], type := .tensor ⟨⟨[2, 4]⟩, .float32⟩, payload? := none },
    { op := .multiThreshold ⟨"UINT2", .zero⟩, inputs := [7], type := .incomplete,
      payload? := none }]

theorem accounts_typeCheck_tangledCalls :
    (DiagnosticLog.empty.add ⟨.error, "bad graph", none, []⟩).Reachable ∧
      ∃ ids reported, Accounts .builtin {}
        (DiagnosticLog.empty.add ⟨.error, "bad graph", none, []⟩) tangledCalls ids reported :=
  ⟨.add _ .empty, accounts_typeCheck .builtin {} (.add _ .empty) tangledCalls⟩

/-- The first call resolves, by the type that it has, and the others are reported. -/
example : ((tangledCalls.typeCheck .builtin {} .empty).resolved,
    (tangledCalls.typeCheck .builtin {} .empty).log.entries.map (·.node?)) =
      (1, [some 1, some 3]) := by decide +kernel

end Graph

end Thresholding
