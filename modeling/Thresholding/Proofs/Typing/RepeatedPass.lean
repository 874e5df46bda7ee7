import Mathlib.Data.List.Basic
import Thresholding.Proofs.Typing.SinglePass

/-!
# Thresholding.Proofs.Typing.RepeatedPass

**Repeated typing passes** over any graph, in whatever order its nodes stand.

An input may be a forward reference, so one pass may come to a call before it comes to what
the call needs, and a graph may have cycles. Passes over a coherent graph only ever add types.
So a pass changes nothing or types one more call (`Coherent.typeCheck_eq_or_lt`), and a graph
with `n` calls no longer changes after `n` passes (`Coherent.passes_eq`). A graph that a pass
does not change is closed (`Coherent.closed_of_fixed`), and its typed calls are the derivable
ones.
-/

namespace Thresholding

namespace Graph

variable {registry : Registry} {config : Config} {g g' : Graph} {logs : Nat → DiagnosticLog}

/-! ### Passes one after the other -/

/-- The graph after `n` passes, where pass `i` appends to `logs i`. -/
def passes (g : Graph) (registry : Registry) (config : Config) (logs : Nat → DiagnosticLog) :
    Nat → Graph
  | 0 => g
  | n + 1 => ((g.passes registry config logs n).typeCheck registry config (logs n)).graph

/-- The state of pass `n` when it has come past `k` calls. -/
def duringPass (g : Graph) (registry : Registry) (config : Config) (logs : Nat → DiagnosticLog)
    (n k : Nat) : PassState :=
  (g.passes registry config logs n).passState registry config (logs n) k

/-- What pass `n` ends with. -/
def pass (g : Graph) (registry : Registry) (config : Config) (logs : Nat → DiagnosticLog)
    (n : Nat) : PassState :=
  (g.passes registry config logs n).typeCheck registry config (logs n)

/-- A pass finds a type for a call when it comes to it. -/
def Resolves (registry : Registry) (config : Config) (log : DiagnosticLog) (g : Graph)
    (id : NodeId) : Prop :=
  ∃ k type, g.calls[k]? = some id ∧
    (g.passState registry config log k).graph.typeNode registry config id = .ok type

/-! ### Logs -/

theorem graph_typeCall_congr {s s' : PassState} (h : s.graph = s'.graph) (id : NodeId) :
    (typeCall registry config s id).graph = (typeCall registry config s' id).graph := by
  unfold typeCall
  rw [h]
  cases s'.graph.typeNode registry config id with
  | ok type => rfl
  | error d => rfl

/-- What a pass finds does not depend on what was reported before. -/
theorem graph_passState_eq (log log' : DiagnosticLog) (k : Nat) :
    (g.passState registry config log k).graph = (g.passState registry config log' k).graph := by
  induction k with
  | zero => rw [passState_zero, passState_zero]
  | succ k ih =>
      cases hid : g.calls[k]? with
      | none => rw [passState_succ_of_none hid, passState_succ_of_none hid, ih]
      | some id => rw [passState_succ hid, passState_succ hid, graph_typeCall_congr ih]

theorem graph_typeCheck_eq (log log' : DiagnosticLog) :
    (g.typeCheck registry config log).graph = (g.typeCheck registry config log').graph := by
  rw [← passState_of_le (Nat.le_refl _), ← passState_of_le (Nat.le_refl _)]
  exact graph_passState_eq log log' _

/-! ### Growth -/

theorem Refines.isTyped (h : Refines g g') {id : NodeId} (hid : g.isTyped id = true) :
    g'.isTyped id = true := by
  obtain ⟨t, ht⟩ := isTyped_iff.1 hid
  exact isTyped_iff.2 ⟨t, h.keeps id t ht⟩

theorem Refines.countP_isTyped_le (h : Refines g g') :
    g.calls.countP g.isTyped ≤ g'.calls.countP g'.isTyped := by
  rw [h.retypes.calls_eq]
  exact List.countP_mono_left fun _ _ => h.isTyped

/-- A refinement that types no other call changes nothing. -/
theorem Coherent.eq_of_refines (hregistry : registry.BuiltFrom OpDef.IsVariant)
    (h : Coherent registry config g) (h' : Coherent registry config g') (hrefines : Refines g g')
    (htyped : ∀ id ∈ g.calls, g'.isTyped id = true → g.isTyped id = true) : g' = g := by
  refine hrefines.retypes.eq_of_typeOf fun id => ?_
  by_cases hid : id ∈ g.calls
  · rcases h.typeOf_cases hregistry hid with hbefore | ⟨t, ht⟩
    · rcases h'.typeOf_cases hregistry (hrefines.retypes.calls_eq ▸ hid) with hafter | hafter
      · rw [hbefore, hafter]
      · obtain ⟨t, ht⟩ := isTyped_iff.1 (htyped id hid (isTyped_iff.2 hafter))
        rw [ht, hrefines.keeps id t ht]
    · rw [ht, hrefines.keeps id t ht]
  · exact hrefines.retypes.typeOf_of_notMem hid

/-- A refinement with as many typed calls changes nothing. -/
theorem Coherent.eq_of_countP_le (hregistry : registry.BuiltFrom OpDef.IsVariant)
    (h : Coherent registry config g) (h' : Coherent registry config g') (hrefines : Refines g g')
    (hcount : g'.calls.countP g'.isTyped ≤ g.calls.countP g.isTyped) : g' = g := by
  have hsublist : (g.calls.filter g.isTyped).Sublist (g.calls.filter g'.isTyped) :=
    List.monotone_filter_right _ fun _ => hrefines.isTyped
  rw [hrefines.retypes.calls_eq, List.countP_eq_length_filter, List.countP_eq_length_filter]
    at hcount
  have hfilter := hsublist.eq_of_length_le hcount
  refine h.eq_of_refines hregistry h' hrefines fun id hid htyped => ?_
  have hmem : id ∈ g.calls.filter g'.isTyped := List.mem_filter.2 ⟨hid, htyped⟩
  rw [← hfilter] at hmem
  exact (List.mem_filter.1 hmem).2

/-- **A pass changes nothing or types one more call.** -/
theorem Coherent.typeCheck_eq_or_lt (hregistry : registry.BuiltFrom OpDef.IsVariant)
    (h : Coherent registry config g) (log : DiagnosticLog) :
    (g.typeCheck registry config log).graph = g ∨
      g.calls.countP g.isTyped < (g.typeCheck registry config log).graph.calls.countP
        (g.typeCheck registry config log).graph.isTyped := by
  obtain ⟨hrefines, hcoherent⟩ := h.typeCheck hregistry log
  rcases Nat.lt_or_ge (g.calls.countP g.isTyped)
    ((g.typeCheck registry config log).graph.calls.countP
      (g.typeCheck registry config log).graph.isTyped) with hlt | hge
  · exact Or.inr hlt
  · exact Or.inl (h.eq_of_countP_le hregistry hcoherent hrefines hge)

/-! ### Graphs that a pass does not change -/

/-- If a pass ends with what it began with, it had nothing else in between. -/
theorem Coherent.graph_passState_of_fixed (hregistry : registry.BuiltFrom OpDef.IsVariant)
    (h : Coherent registry config g) {log : DiagnosticLog}
    (hfixed : (g.typeCheck registry config log).graph = g) (k : Nat) :
    (g.passState registry config log k).graph = g := by
  refine h.eq_of_refines hregistry (h.passState hregistry log k) (h.refines_passState hregistry log k)
    fun id _ htyped => ?_
  -- what is typed by now is typed at the end, which is the beginning
  have hrest := h.passState_refines hregistry log (Nat.le_max_left k g.calls.length)
  rw [passState_of_le (Nat.le_max_right _ _), hfixed] at hrest
  exact hrest.isTyped htyped

/-- **A graph that a pass does not change is closed.** -/
theorem Coherent.closed_of_fixed (hregistry : registry.BuiltFrom OpDef.IsVariant)
    (h : Coherent registry config g) {log : DiagnosticLog}
    (hfixed : (g.typeCheck registry config log).graph = g) : Closed registry config g := by
  intro id type hok
  have hid := mem_calls_of_typeNode hregistry hok
  obtain ⟨k, hk⟩ := List.getElem?_of_mem hid
  have hbefore := h.graph_passState_of_fixed hregistry hfixed k
  have hafter := h.graph_passState_of_fixed hregistry hfixed (k + 1)
  rw [passState_succ hk] at hafter
  rw [← hafter]
  exact typeOf_typeCall_self (hbefore.symm ▸ hid) (hbefore.symm ▸ hok)

/-! ### Convergence -/

theorem Coherent.passes (hregistry : registry.BuiltFrom OpDef.IsVariant)
    (h : Coherent registry config g) (logs : Nat → DiagnosticLog) (n : Nat) :
    Coherent registry config (g.passes registry config logs n) := by
  induction n with
  | zero => exact h
  | succ n ih => exact (ih.typeCheck hregistry (logs n)).2

/-- **Types are never lost** from pass to pass. -/
theorem Coherent.passes_refines (hregistry : registry.BuiltFrom OpDef.IsVariant)
    (h : Coherent registry config g) (logs : Nat → DiagnosticLog) {n n' : Nat} (hle : n ≤ n') :
    Refines (g.passes registry config logs n) (g.passes registry config logs n') := by
  induction hle with
  | refl => exact Refines.refl _
  | step _ ih => exact ih.trans ((h.passes hregistry logs _).typeCheck hregistry (logs _)).1

theorem Coherent.refines_passes (hregistry : registry.BuiltFrom OpDef.IsVariant)
    (h : Coherent registry config g) (logs : Nat → DiagnosticLog) (n : Nat) :
    Refines g (g.passes registry config logs n) :=
  h.passes_refines hregistry logs (Nat.zero_le n)

/-- Once a pass has changed nothing, no later one does. -/
theorem passes_eq_of_fixed {n n' : Nat} (hle : n ≤ n')
    (hfixed : g.passes registry config logs (n + 1) = g.passes registry config logs n) :
    g.passes registry config logs n' = g.passes registry config logs n := by
  induction hle with
  | refl => rfl
  | @step m _ ih =>
      calc g.passes registry config logs (m + 1)
          = ((g.passes registry config logs n).typeCheck registry config (logs m)).graph := by
            rw [Graph.passes, ih]
        _ = g.passes registry config logs (n + 1) := graph_typeCheck_eq _ _
        _ = g.passes registry config logs n := hfixed

/-- As long as passes change something, there is a typed call for each of them. -/
theorem Coherent.passes_fixed_or_le (hregistry : registry.BuiltFrom OpDef.IsVariant)
    (h : Coherent registry config g) (logs : Nat → DiagnosticLog) (n : Nat) :
    g.passes registry config logs (n + 1) = g.passes registry config logs n ∨
      n + 1 ≤ (g.passes registry config logs (n + 1)).calls.countP
        (g.passes registry config logs (n + 1)).isTyped := by
  induction n with
  | zero =>
      rcases h.typeCheck_eq_or_lt hregistry (logs 0) with hfixed | hlt
      · exact Or.inl hfixed
      · exact Or.inr (Nat.lt_of_le_of_lt (Nat.zero_le _) hlt)
  | succ n ih =>
      rcases ih with hfixed | hle
      · exact Or.inl ((passes_eq_of_fixed (Nat.le_add_right n 2) hfixed).trans hfixed.symm)
      · rcases (h.passes hregistry logs (n + 1)).typeCheck_eq_or_lt hregistry (logs (n + 1))
          with hfixed | hlt
        · exact Or.inl hfixed
        · exact Or.inr (Nat.lt_of_le_of_lt hle hlt)

/-- **A graph with `n` calls no longer changes after `n` passes.** -/
theorem Coherent.passes_fixed (hregistry : registry.BuiltFrom OpDef.IsVariant)
    (h : Coherent registry config g) (logs : Nat → DiagnosticLog) :
    g.passes registry config logs (g.calls.length + 1) =
      g.passes registry config logs g.calls.length := by
  rcases h.passes_fixed_or_le hregistry logs g.calls.length with hfixed | hle
  · exact hfixed
  · -- there are not that many calls to type
    refine absurd (hle.trans List.countP_le_length) ?_
    rw [(h.refines_passes hregistry logs _).retypes.calls_eq]
    exact Nat.not_succ_le_self _

theorem Coherent.passes_eq (hregistry : registry.BuiltFrom OpDef.IsVariant)
    (h : Coherent registry config g) (logs : Nat → DiagnosticLog) {n : Nat}
    (hn : g.calls.length ≤ n) :
    g.passes registry config logs n = g.passes registry config logs g.calls.length :=
  passes_eq_of_fixed hn (h.passes_fixed hregistry logs)

/-- After that many passes, the typed calls are the derivable ones. -/
theorem Coherent.typeOf_passes_iff (hregistry : registry.BuiltFrom OpDef.IsVariant)
    (h : Coherent registry config g) (logs : Nat → DiagnosticLog) {n : Nat}
    (hn : g.calls.length ≤ n) {id : NodeId} {t : TensorType} :
    (g.passes registry config logs n).typeOf id = .tensor t ↔ Derives registry config g id t := by
  have hcoherent := h.passes hregistry logs g.calls.length
  rw [h.passes_eq hregistry logs hn,
    (hcoherent.closed_of_fixed hregistry (h.passes_fixed hregistry logs)).typeOf_iff_derives
      hregistry hcoherent,
    (h.refines_passes hregistry logs _).retypes.derives_iff]

/-! ### Calls that resolve -/

/-- A call that has a type when a pass begins resolves in it. -/
theorem Coherent.resolves (hregistry : registry.BuiltFrom OpDef.IsVariant)
    (h : Coherent registry config g) (log : DiagnosticLog) {id : NodeId} (hid : id ∈ g.calls)
    {t : TensorType} (ht : g.typeOf id = .tensor t) : Resolves registry config log g id := by
  obtain ⟨k, hk⟩ := List.getElem?_of_mem hid
  have hrefines := h.refines_passState hregistry log k
  exact ⟨k, .tensor t, hk, (h.passState hregistry log k).typeNode_eq
    (hrefines.retypes.calls_eq.symm ▸ hid) (hrefines.keeps id t ht)⟩

/-- A call that resolves has a derivation. -/
theorem Resolves.derives (hregistry : registry.BuiltFrom OpDef.IsVariant)
    (h : Coherent registry config g) {log : DiagnosticLog} {id : NodeId}
    (hresolves : Resolves registry config log g id) : ∃ t, Derives registry config g id t := by
  obtain ⟨k, type, -, hok⟩ := hresolves
  have hcoherent := h.passState hregistry log k
  obtain ⟨_, data, thresholds, t, u, happlies, hdata, hthresholds, hsuits, -⟩ :=
    (typeNode_eq_ok_iff hregistry).1 hok
  exact ⟨t, (h.refines_passState hregistry log k).retypes.derives_iff.1 (.call happlies
    (hcoherent.sound data t hdata) (hcoherent.sound thresholds u hthresholds) hsuits)⟩

/-- A call without a derivation has no type at any time. -/
theorem Coherent.typeOf_eq_incomplete (hregistry : registry.BuiltFrom OpDef.IsVariant)
    (h : Coherent registry config g) (hretypes : Retypes g' g) {id : NodeId} (hid : id ∈ g'.calls)
    (hnone : ¬ ∃ t, Derives registry config g' id t) : g.typeOf id = .incomplete := by
  rcases h.typeOf_cases hregistry (hretypes.calls_eq ▸ hid) with hincomplete | ⟨t, ht⟩
  · exact hincomplete
  · exact absurd ⟨t, hretypes.derives_iff.1 (h.sound id t ht)⟩ hnone

theorem Coherent.duringPass (hregistry : registry.BuiltFrom OpDef.IsVariant)
    (h : Coherent registry config g) (logs : Nat → DiagnosticLog) (n k : Nat) :
    Coherent registry config (g.duringPass registry config logs n k).graph :=
  (h.passes hregistry logs n).passState hregistry (logs n) k

/-- What is typed in the course of a pass is typed when the next one begins. -/
theorem Coherent.duringPass_refines (hregistry : registry.BuiltFrom OpDef.IsVariant)
    (h : Coherent registry config g) (logs : Nat → DiagnosticLog) (n k : Nat) :
    Refines (g.duringPass registry config logs n k).graph
      (g.passes registry config logs (n + 1)) := by
  have hrefines := (h.passes hregistry logs n).passState_refines hregistry (logs n)
    (Nat.le_max_left k (g.passes registry config logs n).calls.length)
  rwa [passState_of_le (Nat.le_max_right _ _)] at hrefines

/-- A type that is there in the course of a pass is there in all that follows. -/
theorem Coherent.typeOf_duringPass (hregistry : registry.BuiltFrom OpDef.IsVariant)
    (h : Coherent registry config g) (logs : Nat → DiagnosticLog) {n n' : Nat} (hlt : n < n')
    {k : Nat} {id : NodeId} {t : TensorType}
    (ht : (g.duringPass registry config logs n k).graph.typeOf id = .tensor t) :
    (g.passes registry config logs n').typeOf id = .tensor t ∧
      ∀ k', (g.duringPass registry config logs n' k').graph.typeOf id = .tensor t := by
  have hbegin := (h.passes_refines hregistry logs hlt).keeps id t
    ((h.duringPass_refines hregistry logs n k).keeps id t ht)
  refine ⟨hbegin, fun k' => ?_⟩
  exact ((h.passes hregistry logs n').refines_passState hregistry (logs n') k').keeps id t hbegin

/-- A call without a derivation never resolves either. -/
theorem Coherent.never_resolves (hregistry : registry.BuiltFrom OpDef.IsVariant)
    (h : Coherent registry config g) (logs : Nat → DiagnosticLog) {id : NodeId} (hid : id ∈ g.calls)
    (hnone : ¬ ∃ t, Derives registry config g id t) (n : Nat) :
    (∀ k, (g.duringPass registry config logs n k).graph.typeOf id = .incomplete) ∧
      ¬ Resolves registry config (logs n) (g.passes registry config logs n) id := by
  have hcoherent := h.passes hregistry logs n
  have hretypes := (h.refines_passes hregistry logs n).retypes
  constructor
  · intro k
    have hduring := (hcoherent.refines_passState hregistry (logs n) k).retypes
    exact (h.duringPass hregistry logs n k).typeOf_eq_incomplete hregistry
      (hretypes.trans hduring) hid hnone
  · intro hresolves
    obtain ⟨t, hderives⟩ := hresolves.derives hregistry hcoherent
    exact hnone ⟨t, hretypes.derives_iff.1 hderives⟩

/-- What repeated passes come to. -/
structure Converges (registry : Registry) (config : Config) (logs : Nat → DiagnosticLog)
    (g : Graph) : Prop where
  /-- A tensor type stays through all later steps, and its call resolves in every later pass. -/
  stays : ∀ id ∈ g.calls, ∀ t n k,
    (g.duringPass registry config logs n k).graph.typeOf id = .tensor t →
      (∀ k' ≥ k, (g.duringPass registry config logs n k').graph.typeOf id = .tensor t) ∧
      ∀ n' > n, Resolves registry config (logs n') (g.passes registry config logs n') id ∧
        ∀ k', (g.duringPass registry config logs n' k').graph.typeOf id = .tensor t
  /-- No pass counts fewer calls than an earlier one. -/
  counts : ∀ n n', n ≤ n' →
    (g.pass registry config logs n).resolved ≤ (g.pass registry config logs n').resolved
  /-- After as many passes as there are calls, nothing changes any more, not even in the
  course of a pass. -/
  settles : ∀ n ≥ g.calls.length, ∀ k, (g.duringPass registry config logs n k).graph =
    g.passes registry config logs g.calls.length
  /-- The typed calls are then those with a derivation. -/
  typed : ∀ n ≥ g.calls.length, ∀ id ∈ g.calls, ∀ t,
    (g.passes registry config logs n).typeOf id = .tensor t ↔ Derives registry config g id t
  /-- A call without a derivation has no type at any time, and never resolves. -/
  untyped : ∀ id ∈ g.calls, (¬ ∃ t, Derives registry config g id t) → ∀ n,
    (∀ k, (g.duringPass registry config logs n k).graph.typeOf id = .incomplete) ∧
      ¬ Resolves registry config (logs n) (g.passes registry config logs n) id
  /-- So it is with a call that reaches itself through the operands of calls. -/
  cyclic : ∀ id, Relation.TransGen g.OperandOf id id → ∀ n,
    (∀ k, (g.duringPass registry config logs n k).graph.typeOf id = .incomplete) ∧
      ¬ Resolves registry config (logs n) (g.passes registry config logs n) id

/-- **Repeated passes converge** on every graph, in whatever order its nodes stand. -/
theorem passes_converge (hregistry : registry.BuiltFrom OpDef.IsVariant) (hfresh : g.Fresh)
    (logs : Nat → DiagnosticLog) : Converges registry config logs g := by
  have h : Coherent registry config g := hfresh.coherent
  constructor
  case stays =>
    intro id hid t n k ht
    refine ⟨fun k' hk' => ?_, fun n' hn' => ?_⟩
    · exact ((h.passes hregistry logs n).passState_refines hregistry (logs n) hk').keeps id t ht
    · obtain ⟨hbegin, hduring⟩ := h.typeOf_duringPass hregistry logs hn' ht
      have hid' : id ∈ (g.passes registry config logs n').calls :=
        (h.refines_passes hregistry logs n').retypes.calls_eq.symm ▸ hid
      exact ⟨(h.passes hregistry logs n').resolves hregistry (logs n') hid' hbegin, hduring⟩
  case counts =>
    intro n n' hle
    unfold pass
    rw [(h.passes hregistry logs n).resolved_typeCheck hregistry,
      (h.passes hregistry logs n').resolved_typeCheck hregistry]
    exact (h.passes_refines hregistry logs (Nat.succ_le_succ hle)).countP_isTyped_le
  case settles =>
    intro n hn k
    have hsettled := h.passes_eq hregistry logs hn
    have hfixed := (h.passes_eq hregistry logs (Nat.le_succ_of_le hn)).trans hsettled.symm
    exact ((h.passes hregistry logs n).graph_passState_of_fixed hregistry hfixed k).trans hsettled
  case typed =>
    intro n hn id _ t
    exact h.typeOf_passes_iff hregistry logs hn
  case untyped =>
    intro id hid hnone n
    exact h.never_resolves hregistry logs hid hnone n
  case cyclic =>
    intro id hcycle n
    -- the last step of the cycle is one into a call
    obtain ⟨_, -, hstep⟩ := Relation.TransGen.tail'_iff.1 hcycle
    exact h.never_resolves hregistry logs hstep.1
      (fun ⟨t, hderives⟩ => not_derives_of_cycle hcycle t hderives) n

/-- A call on the result of a later one, which is an input of data `[1, 2, 4]`; and a call on
itself. -/
def forwardCalls : Graph where
  nodes := #[
    { op := .multiThreshold ⟨"UINT2", .zero⟩, inputs := [1, 3], type := .incomplete,
      payload? := none },
    { op := .multiThreshold ⟨"UINT2", .zero⟩, inputs := [2, 3], type := .incomplete,
      payload? := none },
    { op := .var "x", inputs := [], type := .tensor ⟨⟨[1, 2, 4]⟩, .float32⟩, payload? := none },
    { op := .var "t", inputs := [], type := .tensor ⟨⟨[2, 4]⟩, .float32⟩, payload? := none },
    { op := .multiThreshold ⟨"UINT2", .zero⟩, inputs := [4, 3], type := .incomplete,
      payload? := none }]

theorem passes_converge_forwardCalls :
    forwardCalls.Fresh ∧ Converges .builtin {} (fun _ => .empty) forwardCalls :=
  ⟨by decide, passes_converge .builtin (by decide) _⟩

/-- The first call is typed by the second pass, the last one by none. -/
example : ([0, 1, 2].map fun n => (forwardCalls.pass .builtin {} (fun _ => .empty) n).resolved) =
    [1, 2, 2] := by decide +kernel

end Graph

end Thresholding
