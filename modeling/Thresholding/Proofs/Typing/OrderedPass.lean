import Thresholding.Proofs.Typing.SinglePass

/-!
# Thresholding.Proofs.Typing.OrderedPass

**A typing pass from any recorded types**, with any registry.

What is found at a call depends on the types of its inputs and on nothing else that a pass
writes (`typeNode_congr`), and the type of a call is written once, when the pass comes to it. With
operands before their users, nothing that a call looks at changes after that. What was found at
a call is then what would be found when the pass is over, so the graph that a pass ends with
can be told without the pass: `Settles` relates it to the graph that the pass began with, and
there is only one such graph (`Settles.typeOf_eq`). The count and the diagnostics of the pass are
read off that graph as well (`Ordered.typeCheck_eq`).

Nothing is asked of the recorded types. A call that is not typed keeps the type it had, however
it came by it, and its users see that type.
-/

namespace Thresholding

/-- Report several diagnostics, one after the other. -/
def DiagnosticLog.addAll (log : DiagnosticLog) (reported : List Diagnostic) : DiagnosticLog :=
  reported.foldl add log

@[simp] theorem DiagnosticLog.addAll_nil (log : DiagnosticLog) : log.addAll [] = log := rfl

theorem DiagnosticLog.addAll_concat (log : DiagnosticLog) (reported : List Diagnostic)
    (d : Diagnostic) : log.addAll (reported ++ [d]) = (log.addAll reported).add d := by
  simp [addAll]

@[simp] theorem DiagnosticLog.entries_addAll (log : DiagnosticLog) (reported : List Diagnostic) :
    (log.addAll reported).entries = log.entries ++ reported := by
  induction reported generalizing log with
  | nil => simp
  | cons d rest ih =>
      have hrest := ih (log.add d)
      simpa [addAll] using hrest

attribute [ext] PassState

namespace Graph

variable {registry : Registry} {config : Config} {g g' F F' : Graph} {log : DiagnosticLog}

/-! ### What a call looks at -/

/-- The answer for a call depends on what node it is and on the types of its inputs. -/
theorem typeNode_congr {id : NodeId}
    (hnode : (g'.node? id).map (fun node => (node.op, node.inputs)) =
      (g.node? id).map fun node => (node.op, node.inputs))
    (hinputs : ∀ input ∈ g.inputs id, g'.typeOf input = g.typeOf input) :
    g'.typeNode registry config id = g.typeNode registry config id := by
  cases h : g.node? id with
  | none =>
      have h' : g'.node? id = none := by simpa [h] using hnode
      simp only [typeNode, h, h']
  | some node =>
      rw [h, Option.map_some, Option.map_eq_some_iff] at hnode
      obtain ⟨node', h', hsame⟩ := hnode
      obtain ⟨hop, hsame⟩ := Prod.mk.inj hsame
      have hslots : g'.slots node' = g.slots node := by
        rw [slots, slots, hsame]
        congr 1
        apply List.map_congr_left
        intro input hinput
        exact hinputs input (by rw [Graph.inputs_eq h]; exact hinput)
      simp only [typeNode, h, h', hop, hsame, hslots]

theorem Retypes.typeNode_eq (h : Retypes g g') {id : NodeId}
    (hinputs : ∀ input ∈ g.inputs id, g'.typeOf input = g.typeOf input) :
    g'.typeNode registry config id = g.typeNode registry config id := by
  refine typeNode_congr ?_ hinputs
  cases hnode : g.node? id with
  | none => rw [h.node?_eq_none.2 hnode]
  | some node => rw [h.node hnode, Option.map_some, Option.map_some]

/-! ### The types in the course of a pass -/

theorem retypes_typeCall {s : PassState} {id : NodeId} (hid : id ∈ s.graph.calls) :
    Retypes s.graph (typeCall registry config s id).graph := by
  rcases typeCall_cases s id with ⟨type, -, hstep⟩ | ⟨d, -, hstep⟩
  · rw [hstep]
    exact retypes_setType hid
  · rw [hstep]
    exact Retypes.refl _

theorem retypes_passState (k : Nat) :
    Retypes g (g.passState registry config log k).graph := by
  induction k with
  | zero => rw [passState_zero]; exact Retypes.refl g
  | succ k ih =>
      cases hid : g.calls[k]? with
      | none => rw [passState_succ_of_none hid]; exact ih
      | some id =>
          rw [passState_succ hid]
          exact ih.trans (retypes_typeCall (ih.calls_eq.symm ▸ List.mem_of_getElem? hid))

theorem mem_calls_passState (k : Nat) {id : NodeId} (hid : id ∈ g.calls) :
    id ∈ (g.passState registry config log k).graph.calls :=
  (retypes_passState k).calls_eq.symm ▸ hid

theorem retypes_typeCheck : Retypes g (g.typeCheck registry config log).graph := by
  rw [← passState_of_le (Nat.le_refl _)]
  exact retypes_passState _

theorem typeOf_passState_succ_of_ne {k : Nat} {id : NodeId} (hne : g.calls[k]? ≠ some id) :
    (g.passState registry config log (k + 1)).graph.typeOf id =
      (g.passState registry config log k).graph.typeOf id := by
  cases hother : g.calls[k]? with
  | none => rw [passState_succ_of_none hother]
  | some other =>
      rw [passState_succ hother]
      apply typeOf_typeCall_of_ne (mem_calls_passState k (List.mem_of_getElem? hother))
      exact fun heq => hne (heq ▸ hother)

/-- Until a pass comes to a name, its type is the one it began with. -/
theorem typeOf_passState_of_forall_ne {k : Nat} {id : NodeId}
    (h : ∀ j < k, g.calls[j]? ≠ some id) :
    (g.passState registry config log k).graph.typeOf id = g.typeOf id := by
  induction k with
  | zero => rw [passState_zero]
  | succ k ih =>
      rw [typeOf_passState_succ_of_ne (h k (Nat.lt_succ_self k))]
      exact ih fun j hj => h j (Nat.lt_succ_of_lt hj)

theorem index_unique {j k : Nat} {id : NodeId} (hj : g.calls[j]? = some id)
    (hk : g.calls[k]? = some id) : j = k := by
  obtain ⟨hlt, -⟩ := List.getElem?_eq_some_iff.1 hj
  exact (List.getElem?_inj hlt g.calls_nodup).1 (hj.trans hk.symm)

/-- Once a pass has come past a call, the type of the call stays. -/
theorem typeOf_passState_of_lt {k k' : Nat} {id : NodeId} (hk : g.calls[k]? = some id)
    (hlt : k < k') : (g.passState registry config log k').graph.typeOf id =
      (g.passState registry config log (k + 1)).graph.typeOf id := by
  induction hlt with
  | refl => rfl
  | @step m hle ih =>
      rw [typeOf_passState_succ_of_ne, ih]
      intro hm
      exact absurd (index_unique hk hm) (Nat.ne_of_lt hle)

/-- What a pass finds at a call when it comes to it. -/
def found (g : Graph) (registry : Registry) (config : Config) (log : DiagnosticLog) (id : NodeId) :
    Except Diagnostic ExprType :=
  (g.passState registry config log (g.calls.idxOf id)).graph.typeNode registry config id

theorem found_eq {k : Nat} {id : NodeId} (hk : g.calls[k]? = some id) :
    g.found registry config log id =
      (g.passState registry config log k).graph.typeNode registry config id := by
  obtain ⟨hlt, hget⟩ := List.getElem?_eq_some_iff.1 hk
  rw [found, ← hget, g.calls_nodup.idxOf_getElem]

theorem typeOf_typeCheck_eq {k : Nat} {id : NodeId} (hk : g.calls[k]? = some id) :
    (g.typeCheck registry config log).graph.typeOf id =
      (g.passState registry config log (k + 1)).graph.typeOf id := by
  rw [← passState_of_le (Nat.le_max_right (k + 1) g.calls.length)]
  exact typeOf_passState_of_lt hk (Nat.lt_of_lt_of_le (Nat.lt_succ_self k) (Nat.le_max_left _ _))

theorem typeOf_typeCheck_of_ok {id : NodeId} {type : ExprType} (hid : id ∈ g.calls)
    (hok : g.found registry config log id = .ok type) :
    (g.typeCheck registry config log).graph.typeOf id = type := by
  obtain ⟨k, hk⟩ := List.getElem?_of_mem hid
  rw [found_eq hk] at hok
  rw [typeOf_typeCheck_eq hk, passState_succ hk]
  exact typeOf_typeCall_self (mem_calls_passState k hid) hok

/-- A call that is reported ends with the type that it had. -/
theorem typeOf_typeCheck_of_error {id : NodeId} {d : Diagnostic} (hid : id ∈ g.calls)
    (herror : g.found registry config log id = .error d) :
    (g.typeCheck registry config log).graph.typeOf id = g.typeOf id := by
  obtain ⟨k, hk⟩ := List.getElem?_of_mem hid
  rw [found_eq hk] at herror
  rw [typeOf_typeCheck_eq hk, passState_succ hk, typeCall, herror]
  apply typeOf_passState_of_forall_ne
  intro j hj hj'
  exact absurd (index_unique hj' hk) (Nat.ne_of_lt hj)

/-! ### What a pass counts and reports -/

/-- The diagnostic about a call, unless it was found a type. -/
def reportOf (id : NodeId) : Except Diagnostic ExprType → Option Diagnostic
  | .ok _ => none
  | .error d => some (d.atNode id)

/-- The diagnostics about the calls of a graph as it is. -/
def reports (registry : Registry) (config : Config) (g : Graph) : List Diagnostic :=
  g.calls.filterMap fun id => reportOf id (g.typeNode registry config id)

/-- The number of calls that are found a type in a graph as it is. -/
def resolvable (registry : Registry) (config : Config) (g : Graph) : Nat :=
  g.calls.countP fun id => (g.typeNode registry config id).isOk

theorem passState_found (k : Nat) :
    (g.passState registry config log k).resolved =
        (g.calls.take k).countP (fun id => (g.found registry config log id).isOk) ∧
      (g.passState registry config log k).log =
        log.addAll ((g.calls.take k).filterMap fun id =>
          reportOf id (g.found registry config log id)) := by
  induction k with
  | zero => simp
  | succ k ih =>
      obtain ⟨hresolved, hlog⟩ := ih
      cases hid : g.calls[k]? with
      | none =>
          have hle := List.getElem?_eq_none_iff.1 hid
          rw [passState_succ_of_none hid, hresolved, hlog, List.take_of_length_le hle,
            List.take_of_length_le (Nat.le_succ_of_le hle)]
          exact ⟨rfl, rfl⟩
      | some id =>
          rw [passState_succ hid, List.take_add_one, hid, List.countP_append, List.filterMap_append]
          cases hfound : g.found registry config log id with
          | ok type =>
              rw [typeCall, (found_eq hid).symm.trans hfound]
              simp [hfound, reportOf, hresolved, hlog]
          | error d =>
              rw [typeCall, (found_eq hid).symm.trans hfound]
              simp [hfound, reportOf, hresolved, hlog, DiagnosticLog.addAll_concat]

/-- **A pass counts the calls that it finds a type for and reports the others**, in their order. -/
theorem typeCheck_found :
    (g.typeCheck registry config log).resolved =
        g.calls.countP (fun id => (g.found registry config log id).isOk) ∧
      (g.typeCheck registry config log).log =
        log.addAll (g.calls.filterMap fun id => reportOf id (g.found registry config log id)) := by
  rw [← passState_of_le (Nat.le_refl g.calls.length)]
  constructor
  · rw [(passState_found g.calls.length).1, List.take_length]
  · rw [(passState_found g.calls.length).2, List.take_length]

/-! ### Operands before their users -/

theorem Ordered.typeNode_passState_succ (hordered : g.Ordered) {k : Nat} {other : NodeId}
    (hother : other ∈ g.calls.take (k + 1)) :
    (g.passState registry config log (k + 1)).graph.typeNode registry config other =
      (g.passState registry config log k).graph.typeNode registry config other := by
  cases hid : g.calls[k]? with
  | none => rw [passState_succ_of_none hid]
  | some id =>
      have hmem : id ∈ (g.passState registry config log k).graph.calls :=
        mem_calls_passState k (List.mem_of_getElem? hid)
      rw [passState_succ hid]
      apply (retypes_typeCall hmem).typeNode_eq
      intro input hinput
      rw [(retypes_passState k).inputs_eq] at hinput
      exact typeOf_typeCall_of_ne hmem (hordered.input_ne hid hother hinput)

/-- **What was found at a call is what is found when the pass is over.** -/
theorem Ordered.found_eq_typeNode (hordered : g.Ordered) {id : NodeId} (hid : id ∈ g.calls) :
    g.found registry config log id =
      (g.typeCheck registry config log).graph.typeNode registry config id := by
  obtain ⟨k, hk⟩ := List.getElem?_of_mem hid
  have hlater : ∀ k' ≥ k, (g.passState registry config log k').graph.typeNode registry config id =
      (g.passState registry config log k).graph.typeNode registry config id := by
    intro k' hle
    induction hle with
    | refl => rfl
    | @step m hle ih =>
        rw [hordered.typeNode_passState_succ, ih]
        have hmem : id ∈ g.calls.take (k + 1) := (mem_take_succ_calls hk).2 (Or.inr rfl)
        exact List.take_subset_take_left _ (Nat.succ_le_succ hle) hmem
  rw [found_eq hk, ← passState_of_le (Nat.le_max_right k g.calls.length)]
  exact (hlater _ (Nat.le_max_left _ _)).symm

/-! ### The graph that a pass ends with -/

/-- A graph is what typing makes of another one, with no mention of a pass: calls that are found
a type there have that type, and the others have the type that they had. -/
structure Settles (registry : Registry) (config : Config) (g F : Graph) : Prop where
  /-- Only types of calls differ. -/
  retypes : Retypes g F
  /-- A call that is found a type has it. -/
  typed : ∀ id ∈ g.calls, ∀ type, F.typeNode registry config id = .ok type → F.typeOf id = type
  /-- A call that is reported has the type that it had. -/
  kept : ∀ id ∈ g.calls, ∀ d, F.typeNode registry config id = .error d → F.typeOf id = g.typeOf id

theorem Ordered.settles_typeCheck (hordered : g.Ordered) (log : DiagnosticLog) :
    Settles registry config g (g.typeCheck registry config log).graph := by
  constructor
  case retypes => exact retypes_typeCheck
  case typed =>
    intro id hid type hok
    exact typeOf_typeCheck_of_ok hid ((hordered.found_eq_typeNode hid).trans hok)
  case kept =>
    intro id hid d herror
    exact typeOf_typeCheck_of_error hid ((hordered.found_eq_typeNode hid).trans herror)

theorem Settles.self (h : Settles registry config g F) : Settles registry config F F := by
  constructor
  case retypes => exact Retypes.refl F
  case typed =>
    intro id hid
    exact h.typed id (h.retypes.calls_eq ▸ hid)
  case kept =>
    intro id _ d _
    rfl

/-- **Names that stand for the same nodes in two graphs settle to the same types**, if what they
use beyond that settles to the same types. -/
theorem Settles.typeOf_eq (h : Settles registry config g F) (h' : Settles registry config g' F')
    {n : Nat} (hsame : ∀ id < n, g'.node? id = g.node? id)
    (hinputs : ∀ id < n, id ∈ g.calls → ∀ input ∈ g.inputs id,
      input < id ∨ F'.typeOf input = F.typeOf input) :
    ∀ id < n, F'.typeOf id = F.typeOf id := by
  intro id
  induction id using Nat.strong_induction_on with
  | _ id ih =>
      intro hlt
      by_cases hid : id ∈ g.calls
      · have hid' : id ∈ g'.calls := by
          rw [mem_calls, hsame id hlt]
          exact mem_calls.1 hid
        -- the inputs have been settled to the same types, so the answers are the same
        have hanswer : F'.typeNode registry config id = F.typeNode registry config id := by
          apply typeNode_congr
          · rw [h'.retypes id, h.retypes id, hsame id hlt]
            obtain ⟨node, hnode, hcall⟩ := mem_calls.1 hid
            simp [hnode, hcall]
          · intro input hinput
            rw [h.retypes.inputs_eq] at hinput
            rcases hinputs id hlt hid input hinput with hbefore | heq
            · exact ih input hbefore (Nat.lt_trans hbefore hlt)
            · exact heq
        cases hfound : F.typeNode registry config id with
        | ok type => rw [h'.typed id hid' type (hanswer.trans hfound), h.typed id hid type hfound]
        | error d =>
            rw [h'.kept id hid' d (hanswer.trans hfound), h.kept id hid d hfound, typeOf, typeOf,
              hsame id hlt]
      · -- sources and names without a node are left alone
        have hid' : id ∉ g'.calls := by
          rw [mem_calls, hsame id hlt]
          exact fun hcall => hid (mem_calls.2 hcall)
        rw [h'.retypes.typeOf_of_notMem hid', h.retypes.typeOf_of_notMem hid, typeOf, typeOf,
          hsame id hlt]

/-- **A graph settles in one way**, if operands stand before their users. -/
theorem Settles.unique (hordered : g.Ordered) (h : Settles registry config g F)
    (h' : Settles registry config g F') : F' = F := by
  have hretypes : Retypes F F' := h.retypes.symm.trans h'.retypes
  have houtside : ∀ id, g.size ≤ id → F'.typeOf id = F.typeOf id := by
    intro id hge
    have hnone : F.node? id = none := h.retypes.node?_eq_none.2 (node?_eq_none_iff.2 hge)
    rw [typeOf, typeOf, hnone, hretypes.node?_eq_none.2 hnone]
  apply hretypes.eq_of_typeOf
  intro id
  rcases Nat.lt_or_ge id g.size with hlt | hge
  · refine h.typeOf_eq h' (n := g.size) (fun _ _ => rfl) ?_ id hlt
    intro id _ hid input hinput
    exact (hordered id hid input hinput).imp_right (houtside input)
  · exact houtside id hge

/-- **A pass over operands before their users is told by the graph that it settles.** -/
theorem Ordered.typeCheck_eq (hordered : g.Ordered) (h : Settles registry config g F)
    (log : DiagnosticLog) : g.typeCheck registry config log =
      { graph := F
        resolved := F.resolvable registry config
        log := log.addAll (F.reports registry config) } := by
  have hgraph : (g.typeCheck registry config log).graph = F :=
    h.unique hordered (hordered.settles_typeCheck log)
  have hfound : ∀ id ∈ g.calls,
      g.found registry config log id = F.typeNode registry config id := by
    intro id hid
    rw [hordered.found_eq_typeNode hid, hgraph]
  have hcount : (g.typeCheck registry config log).resolved = F.resolvable registry config := by
    rw [typeCheck_found.1, resolvable, h.retypes.calls_eq]
    apply List.countP_congr
    intro id hid
    rw [hfound id hid]
  have hreports : (g.typeCheck registry config log).log =
      log.addAll (F.reports registry config) := by
    rw [typeCheck_found.2, reports, h.retypes.calls_eq]
    congr 1
    apply List.filterMap_congr
    intro id hid
    rw [hfound id hid]
  exact PassState.ext hgraph hcount hreports

theorem Retypes.ordered (h : Retypes g g') (hordered : g.Ordered) : g'.Ordered := by
  intro id hid input hinput
  rw [h.calls_eq] at hid
  rw [h.inputs_eq] at hinput
  rw [h.size_eq]
  exact hordered id hid input hinput

/-! ### A second pass -/

/-- Two passes come to the same: they end with the same graph, count as many calls, and append
the same diagnostics to their logs. -/
structure PassesAgree (log log' : DiagnosticLog) (p p' : PassState) : Prop where
  /-- The graphs are the same. -/
  graph : p'.graph = p.graph
  /-- As many calls were typed. -/
  resolved : p'.resolved = p.resolved
  /-- The same was reported. -/
  reported : ∃ reported, p.log.entries = log.entries ++ reported ∧
    p'.log.entries = log'.entries ++ reported

theorem Ordered.passesAgree (hordered : g.Ordered) (hordered' : g'.Ordered)
    (h : Settles registry config g F) (h' : Settles registry config g' F)
    (log log' : DiagnosticLog) :
    PassesAgree log log' (g.typeCheck registry config log) (g'.typeCheck registry config log') := by
  rw [hordered.typeCheck_eq h, hordered'.typeCheck_eq h']
  exact ⟨rfl, rfl, F.reports registry config, by simp, by simp⟩

/-- **A second pass repeats the first one**, whatever types were recorded before: it changes
nothing, counts the same calls and reports the same of the others. -/
theorem typeCheck_repeats (hordered : g.Ordered) (registry : Registry) (config : Config)
    (log : DiagnosticLog) :
    PassesAgree log (g.typeCheck registry config log).log (g.typeCheck registry config log)
      ((g.typeCheck registry config log).graph.typeCheck registry config
        (g.typeCheck registry config log).log) := by
  have hsettles : Settles registry config g (g.typeCheck registry config log).graph :=
    hordered.settles_typeCheck log
  exact hordered.passesAgree (hsettles.retypes.ordered hordered) hsettles hsettles.self _ _

/-- Data and thresholds; a call with a bias of `1`, on which a host has recorded a type of its own, and
a call on its result; a call with a tuple for a type and an input that is missing, and a call on
its result. -/
def staleTypes : Graph where
  nodes := #[
    { op := .var "x", inputs := [], type := .tensor ⟨⟨[1, 2, 4]⟩, .float32⟩, payload? := none },
    { op := .var "t", inputs := [], type := .tensor ⟨⟨[2, 4]⟩, .float32⟩, payload? := none },
    { op := .multiThreshold ⟨"UINT2", .ofInt .binary64 1⟩, inputs := [0, 1],
      type := .tensor ⟨⟨[7]⟩, .int8⟩, payload? := none },
    { op := .multiThreshold ⟨"UINT2", .zero⟩, inputs := [2, 1], type := .incomplete,
      payload? := none },
    { op := .multiThreshold ⟨"UINT2", .zero⟩, inputs := [0, 9], type := .tuple [.incomplete],
      payload? := none },
    { op := .multiThreshold ⟨"UINT2", .zero⟩, inputs := [4, 1],
      type := .tensor ⟨⟨[1, 2, 4]⟩, .float32⟩, payload? := none }]

theorem typeCheck_repeats_staleTypes :
    staleTypes.Ordered ∧
      PassesAgree .empty (staleTypes.typeCheck .builtin {} .empty).log
        (staleTypes.typeCheck .builtin {} .empty)
        ((staleTypes.typeCheck .builtin {} .empty).graph.typeCheck .builtin {}
          (staleTypes.typeCheck .builtin {} .empty).log) :=
  ⟨by decide, typeCheck_repeats (by decide) .builtin {} .empty⟩

/-- The call that is typed has the type that was recorded on its data by hand. -/
example : ((staleTypes.typeCheck .builtin {} .empty).graph.typeOf 3,
    (staleTypes.typeCheck .builtin {} .empty).log.entries.map fun d => (d.node?, d.severity)) =
      (.tensor ⟨⟨[7]⟩, .int8⟩, [(some 2, .error), (some 4, .note), (some 5, .note)]) := by
  decide +kernel

end Graph

end Thresholding
