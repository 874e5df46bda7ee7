import Mathlib.Data.Set.Card
import Thresholding.Proofs.Typing.Judgement

/-!
# Thresholding.Proofs.Typing.SinglePass

**One typing pass**, call by call.

A pass records a type as soon as it finds one, so halfway through it works on a graph that
is typed in part. Two things hold of every such graph if they hold at the start
(`Coherent`): a call that has a type is one that would get that same type again, and every
type that is recorded has a derivation. The first makes every write harmless: a call with a
type is only ever given the same type (`Coherent.typeCall`), so types are never lost.

If operands stand before their users, then nothing that a call looks at changes after the
pass has come to it. The graph is then closed when the pass ends (`Closed`), and in a closed
graph everything derivable is typed.
-/

namespace Thresholding

namespace Graph

variable {registry : Registry} {config : Config} {g : Graph} {log : DiagnosticLog}

/-! ### Graphs before a pass -/

/-- No call has a type yet. -/
def Fresh (g : Graph) : Prop := ∀ id ∈ g.calls, g.typeOf id = .incomplete

/-- Every input of a call stands before the call or names no node. -/
def Ordered (g : Graph) : Prop := ∀ id ∈ g.calls, ∀ input ∈ g.inputs id, input < id ∨ g.size ≤ input

instance (g : Graph) : Decidable g.Fresh := inferInstanceAs (Decidable (∀ id ∈ g.calls, _))

instance (g : Graph) : Decidable g.Ordered := inferInstanceAs (Decidable (∀ id ∈ g.calls, _))

/-! ### The states of a pass -/

/-- The state of a pass when it has come past its first `k` calls. -/
def passState (g : Graph) (registry : Registry) (config : Config) (log : DiagnosticLog) (k : Nat) :
    PassState :=
  (g.calls.take k).foldl (typeCall registry config) { graph := g, resolved := 0, log }

@[simp] theorem passState_zero :
    g.passState registry config log 0 = { graph := g, resolved := 0, log } := by
  rw [passState, List.take_zero]
  rfl

theorem passState_succ {k : Nat} {id : NodeId} (h : g.calls[k]? = some id) :
    g.passState registry config log (k + 1) =
      typeCall registry config (g.passState registry config log k) id := by
  unfold passState
  rw [List.take_add_one, h, List.foldl_append]
  rfl

/-- Behind the last call nothing happens. -/
theorem passState_of_le {k : Nat} (h : g.calls.length ≤ k) :
    g.passState registry config log k = g.typeCheck registry config log := by
  unfold passState typeCheck
  rw [List.take_of_length_le h]

/-- A call is either given a type, which counts, or reported. -/
theorem typeCall_cases (s : PassState) (id : NodeId) :
    (∃ type, s.graph.typeNode registry config id = .ok type ∧
      typeCall registry config s id =
        { s with graph := (s.graph.setType id type).2, resolved := s.resolved + 1 }) ∨
    (∃ d, s.graph.typeNode registry config id = .error d ∧
      typeCall registry config s id = { s with log := s.log.add (d.atNode id) }) := by
  unfold typeCall
  cases h : s.graph.typeNode registry config id with
  | ok type => exact Or.inl ⟨type, rfl, rfl⟩
  | error d => exact Or.inr ⟨d, rfl, rfl⟩

/-- A call that is found a type has it afterwards. -/
theorem typeOf_typeCall_self {s : PassState} {id : NodeId} {type : ExprType}
    (hid : id ∈ s.graph.calls) (hok : s.graph.typeNode registry config id = .ok type) :
    (typeCall registry config s id).graph.typeOf id = type := by
  unfold typeCall
  rw [hok]
  exact (typeOf_setType id hid).trans (if_pos rfl)

theorem typeOf_typeCall_of_ne {s : PassState} {id other : NodeId} (hid : id ∈ s.graph.calls)
    (hne : id ≠ other) :
    (typeCall registry config s id).graph.typeOf other = s.graph.typeOf other := by
  rcases typeCall_cases s id with ⟨type, -, hstep⟩ | ⟨d, -, hstep⟩
  · rw [hstep]
    exact (typeOf_setType other hid).trans (if_neg hne)
  · rw [hstep]

/-! ### Coherent graphs -/

/-- The recorded types are in keeping with the typing rule. -/
structure Coherent (registry : Registry) (config : Config) (g : Graph) : Prop where
  /-- A call has no type, or the type that its operands give it. -/
  settled : ∀ id ∈ g.calls, g.typeOf id = .incomplete ∨
    g.typeNode registry config id = .ok (g.typeOf id)
  /-- A recorded type has a derivation. -/
  sound : ∀ id t, g.typeOf id = .tensor t → Derives registry config g id t

theorem Fresh.coherent (h : g.Fresh) : Coherent registry config g := by
  refine ⟨fun id hid => Or.inl (h id hid), fun id t ht => ?_⟩
  obtain ⟨node, hnode, htype⟩ := exists_node_of_typeOf ht
  cases hsource : node.op.isSource with
  | true => exact .source hnode hsource htype
  | false =>
      rw [h id (mem_calls.2 ⟨node, hnode, hsource⟩)] at ht
      exact absurd ht (by simp)

/-- A call with a tensor type is given that type again. -/
theorem Coherent.typeNode_eq (h : Coherent registry config g) {id : NodeId} (hid : id ∈ g.calls)
    {t : TensorType} (ht : g.typeOf id = .tensor t) :
    g.typeNode registry config id = .ok (.tensor t) := by
  rcases h.settled id hid with hincomplete | hok
  · rw [ht] at hincomplete
    exact absurd hincomplete (by simp)
  · rw [ht] at hok
    exact hok

/-- A call with a tensor type has that of its data, and its attributes suit its thresholds. -/
theorem Coherent.exists_operands (hregistry : registry.BuiltFrom OpDef.IsVariant)
    (h : Coherent registry config g) {id : NodeId} {node : Node} {attrs : ThresholdAttrs}
    {t : TensorType} (hnode : g.node? id = some node) (hop : node.op = .multiThreshold attrs)
    (ht : node.type = .tensor t) :
    ∃ data thresholds u, node.inputs = [data, thresholds] ∧ g.typeOf data = .tensor t ∧
      g.typeOf thresholds = .tensor u ∧ attrs.Suits config u := by
  have hid : id ∈ g.calls := mem_calls.2 ⟨node, hnode, by rw [hop]; rfl⟩
  obtain ⟨_, data, thresholds, _, u, happlies, hdata, hthresholds, hsuits, htype⟩ :=
    (typeNode_eq_ok_iff hregistry).1 (h.typeNode_eq hid ((typeOf_eq hnode).trans ht))
  obtain ⟨node', hnode', hop', hinputs⟩ := happlies.node
  cases hnode.symm.trans hnode'
  cases hop.symm.trans hop'
  cases htype
  exact ⟨data, thresholds, u, hinputs, hdata, hthresholds, hsuits⟩

/-- A call of a coherent graph has no type or a tensor type. -/
theorem Coherent.typeOf_cases (hregistry : registry.BuiltFrom OpDef.IsVariant)
    (h : Coherent registry config g) {id : NodeId} (hid : id ∈ g.calls) :
    g.typeOf id = .incomplete ∨ ∃ t, g.typeOf id = .tensor t := by
  rcases h.settled id hid with hincomplete | hok
  · exact Or.inl hincomplete
  · obtain ⟨_, _, _, t, _, _, _, _, _, ht⟩ := (typeNode_eq_ok_iff hregistry).1 hok
    exact Or.inr ⟨t, ht⟩

/-- Recording what was found refines a coherent graph: where a type stood, the same one is
written. -/
theorem Coherent.refines_setType (hregistry : registry.BuiltFrom OpDef.IsVariant)
    (h : Coherent registry config g) {id : NodeId} {type : ExprType}
    (hok : g.typeNode registry config id = .ok type) : Refines g (g.setType id type).2 := by
  have hid := mem_calls_of_typeNode hregistry hok
  refine ⟨retypes_setType hid, fun other t ht => ?_⟩
  rw [typeOf_setType other hid]
  split
  · next heq =>
      subst heq
      have hsame := (h.typeNode_eq hid ht).symm.trans hok
      cases hsame
      rfl
  · exact ht

theorem Coherent.setType (hregistry : registry.BuiltFrom OpDef.IsVariant)
    (h : Coherent registry config g) {id : NodeId} {type : ExprType}
    (hok : g.typeNode registry config id = .ok type) :
    Coherent registry config (g.setType id type).2 := by
  have hid := mem_calls_of_typeNode hregistry hok
  have hrefines := h.refines_setType hregistry hok
  have hkeeps : ∀ {other : NodeId} {type' : ExprType}, g.typeNode registry config other = .ok type' →
      (g.setType id type).2.typeNode registry config other = .ok type' :=
    fun hother => hrefines.retypes.typeNode hregistry (fun _ _ t => hrefines.keeps _ t) hother
  constructor
  · intro other hother
    rw [typeOf_setType other hid]
    split
    · next heq =>
        -- asked again, the call gets the type that has just been recorded
        subst heq
        exact Or.inr (hkeeps hok)
    · rw [hrefines.retypes.calls_eq] at hother
      exact (h.settled other hother).imp_right hkeeps
  · intro other t ht
    refine hrefines.retypes.derives ?_
    rw [typeOf_setType other hid] at ht
    split at ht
    · next heq =>
        subst heq
        obtain ⟨attrs, data, thresholds, t', u, happlies, hdata, hthresholds, hsuits, htype⟩ :=
          (typeNode_eq_ok_iff hregistry).1 hok
        rw [ht] at htype
        cases htype
        exact .call happlies (h.sound data t hdata) (h.sound thresholds u hthresholds) hsuits
    · exact h.sound other t ht

/-- **One call of a pass** refines a coherent graph and leaves it coherent. -/
theorem Coherent.typeCall (hregistry : registry.BuiltFrom OpDef.IsVariant) {s : PassState}
    (h : Coherent registry config s.graph) (id : NodeId) :
    Refines s.graph (typeCall registry config s id).graph ∧
      Coherent registry config (Graph.typeCall registry config s id).graph := by
  rcases typeCall_cases s id with ⟨type, hok, hstep⟩ | ⟨d, -, hstep⟩
  · rw [hstep]
    exact ⟨h.refines_setType hregistry hok, h.setType hregistry hok⟩
  · rw [hstep]
    exact ⟨Refines.refl _, h⟩

/-! ### A whole pass -/

theorem passState_succ_of_none {k : Nat} (h : g.calls[k]? = none) :
    g.passState registry config log (k + 1) = g.passState registry config log k := by
  have hle := List.getElem?_eq_none_iff.1 h
  rw [passState_of_le hle, passState_of_le (Nat.le_succ_of_le hle)]

theorem Coherent.passState_step (hregistry : registry.BuiltFrom OpDef.IsVariant) {k : Nat}
    (h : Coherent registry config (g.passState registry config log k).graph) :
    Refines (g.passState registry config log k).graph
        (g.passState registry config log (k + 1)).graph ∧
      Coherent registry config (g.passState registry config log (k + 1)).graph := by
  cases hid : g.calls[k]? with
  | none => rw [passState_succ_of_none hid]; exact ⟨Refines.refl _, h⟩
  | some id => rw [passState_succ hid]; exact h.typeCall hregistry id

/-- **Every state of a pass is coherent** if the first one is. -/
theorem Coherent.passState (hregistry : registry.BuiltFrom OpDef.IsVariant)
    (h : Coherent registry config g) (log : DiagnosticLog) (k : Nat) :
    Coherent registry config (g.passState registry config log k).graph := by
  induction k with
  | zero => rw [passState_zero]; exact h
  | succ k ih => exact (ih.passState_step hregistry).2

/-- **Types are never lost** in the course of a pass. -/
theorem Coherent.passState_refines (hregistry : registry.BuiltFrom OpDef.IsVariant)
    (h : Coherent registry config g) (log : DiagnosticLog) {k k' : Nat} (hle : k ≤ k') :
    Refines (g.passState registry config log k).graph
      (g.passState registry config log k').graph := by
  induction hle with
  | refl => exact Refines.refl _
  | step _ ih => exact ih.trans ((h.passState hregistry log _).passState_step hregistry).1

theorem Coherent.refines_passState (hregistry : registry.BuiltFrom OpDef.IsVariant)
    (h : Coherent registry config g) (log : DiagnosticLog) (k : Nat) :
    Refines g (g.passState registry config log k).graph := by
  have hrefines := h.passState_refines hregistry log (Nat.zero_le k)
  rwa [passState_zero] at hrefines

theorem Coherent.typeCheck (hregistry : registry.BuiltFrom OpDef.IsVariant)
    (h : Coherent registry config g) (log : DiagnosticLog) :
    Refines g (g.typeCheck registry config log).graph ∧
      Coherent registry config (g.typeCheck registry config log).graph := by
  rw [← passState_of_le (Nat.le_refl _)]
  exact ⟨h.refines_passState hregistry log _, h.passState hregistry log _⟩

/-! ### Counting -/

/-- Whether a tensor type is recorded for a name. -/
def isTyped (g : Graph) (id : NodeId) : Bool := (g.typeOf id).tensor?.isSome

theorem isTyped_iff {id : NodeId} : g.isTyped id = true ↔ ∃ t, g.typeOf id = .tensor t := by
  rw [isTyped, Option.isSome_iff_exists]
  exact exists_congr fun t => ExprType.tensor?_eq_some_iff

/-- One call counts exactly if it has a type afterwards. -/
theorem Coherent.resolved_typeCall (hregistry : registry.BuiltFrom OpDef.IsVariant) {s : PassState}
    (h : Coherent registry config s.graph) {id : NodeId} (hid : id ∈ s.graph.calls) :
    (Graph.typeCall registry config s id).resolved =
      s.resolved + [id].countP (Graph.typeCall registry config s id).graph.isTyped := by
  rcases typeCall_cases s id with ⟨type, hok, hstep⟩ | ⟨d, herror, hstep⟩
  · have htyped : (s.graph.setType id type).2.isTyped id = true := by
      obtain ⟨_, _, _, t, _, _, _, _, _, rfl⟩ := (typeNode_eq_ok_iff hregistry).1 hok
      exact isTyped_iff.2 ⟨t, by rw [typeOf_setType id hid, if_pos rfl]⟩
    rw [hstep, List.countP_singleton, if_pos htyped]
  · have huntyped : ¬ s.graph.isTyped id = true := by
      intro htyped
      obtain ⟨t, ht⟩ := isTyped_iff.1 htyped
      rw [h.typeNode_eq hid ht] at herror
      exact absurd herror (by simp)
    rw [hstep, List.countP_singleton, if_neg huntyped, Nat.add_zero]

/-- The number of calls resolved so far is the number of those that have a type now. -/
theorem Coherent.resolved_passState (hregistry : registry.BuiltFrom OpDef.IsVariant)
    (h : Coherent registry config g) (log : DiagnosticLog) (k : Nat) :
    (g.passState registry config log k).resolved =
      (g.calls.take k).countP (g.passState registry config log k).graph.isTyped := by
  induction k with
  | zero => rw [passState_zero, List.take_zero]; rfl
  | succ k ih =>
      cases hid : g.calls[k]? with
      | none =>
          have hle := List.getElem?_eq_none_iff.1 hid
          rw [passState_succ_of_none hid, ih, List.take_of_length_le hle,
            List.take_of_length_le (Nat.le_succ_of_le hle)]
      | some id =>
          have hcalls := (h.refines_passState hregistry log k).retypes.calls_eq
          have hmem : id ∈ (g.passState registry config log k).graph.calls :=
            hcalls ▸ List.mem_of_getElem? hid
          -- the step types at most this call, so those before it count as they did
          have hbefore : ∀ other ∈ g.calls.take k, id ≠ other :=
            fun other hother => (Nat.ne_of_lt ((mem_take_calls hid).1 hother).2).symm
          rw [passState_succ hid, (h.passState hregistry log k).resolved_typeCall hregistry hmem, ih,
            List.take_add_one, hid, List.countP_append]
          congr 1
          refine List.countP_congr fun other hother => ?_
          rw [isTyped, isTyped, typeOf_typeCall_of_ne hmem (hbefore other hother)]

/-- A pass counts the calls that have a type when it ends. -/
theorem Coherent.resolved_typeCheck (hregistry : registry.BuiltFrom OpDef.IsVariant)
    (h : Coherent registry config g) (log : DiagnosticLog) :
    (g.typeCheck registry config log).resolved =
      (g.typeCheck registry config log).graph.calls.countP
        (g.typeCheck registry config log).graph.isTyped := by
  have hresolved := h.resolved_passState hregistry log g.calls.length
  rw [passState_of_le (Nat.le_refl _), List.take_length] at hresolved
  rw [hresolved, (h.typeCheck hregistry log).1.retypes.calls_eq]

/-! ### Closed graphs -/

/-- Asking for any call would find the type that the call has. -/
def Closed (registry : Registry) (config : Config) (g : Graph) : Prop :=
  ∀ id type, g.typeNode registry config id = .ok type → g.typeOf id = type

/-- In a closed graph everything derivable is typed. -/
theorem Closed.complete (hregistry : registry.BuiltFrom OpDef.IsVariant)
    (h : Closed registry config g) {id : NodeId} {t : TensorType}
    (hderives : Derives registry config g id t) : g.typeOf id = .tensor t := by
  induction hderives with
  | source hnode _ htype => exact (typeOf_eq hnode).trans htype
  | call happlies _ _ hsuits ihdata ihthresholds =>
      exact h _ _ ((typeNode_eq_ok_iff hregistry).2
        ⟨_, _, _, _, _, happlies, ihdata, ihthresholds, hsuits, rfl⟩)

/-- The inputs of a call that the pass has come past are not given a type any more. -/
theorem Ordered.input_ne (h : g.Ordered) {k : Nat} {id : NodeId} (hid : g.calls[k]? = some id)
    {other input : NodeId} (hother : other ∈ g.calls.take (k + 1)) (hinput : input ∈ g.inputs other) :
    id ≠ input := by
  have hle : other ∈ g.calls ∧ other ≤ id := by
    rcases (mem_take_succ_calls hid).1 hother with hother | rfl
    · exact ((mem_take_calls hid).1 hother).imp_right Nat.le_of_lt
    · exact ⟨List.mem_of_getElem? hid, Nat.le_refl _⟩
  have hlt : id < g.size := by
    obtain ⟨node, hnode, -⟩ := mem_calls.1 (List.mem_of_getElem? hid)
    refine Nat.lt_of_not_le fun hge => ?_
    rw [node?_eq_none_iff.2 hge] at hnode
    exact absurd hnode (by simp)
  rcases h other hle.1 input hinput with hbefore | hnone
  · exact fun heq => absurd hbefore (Nat.not_lt.2 (heq ▸ hle.2))
  · exact fun heq => absurd hlt (Nat.not_lt.2 (heq ▸ hnone))

/-- **With operands before their users**, the calls that the pass has come past have the type
that they would be found now. -/
theorem Ordered.typeOf_passState (hregistry : registry.BuiltFrom OpDef.IsVariant)
    (hordered : g.Ordered) (h : Coherent registry config g) (log : DiagnosticLog) (k : Nat) :
    ∀ other ∈ g.calls.take k, ∀ type,
      (g.passState registry config log k).graph.typeNode registry config other = .ok type →
      (g.passState registry config log k).graph.typeOf other = type := by
  induction k with
  | zero => exact fun other hother => absurd hother List.not_mem_nil
  | succ k ih =>
      cases hid : g.calls[k]? with
      | none =>
          have hle := List.getElem?_eq_none_iff.1 hid
          rw [passState_succ_of_none hid, List.take_of_length_le (Nat.le_succ_of_le hle)]
          rw [List.take_of_length_le hle] at ih
          exact ih
      | some id =>
          rw [passState_succ hid]
          intro other hother type hok
          have hrefines := h.refines_passState hregistry log k
          have hmem : id ∈ (g.passState registry config log k).graph.calls :=
            hrefines.retypes.calls_eq ▸ List.mem_of_getElem? hid
          have hstep := ((h.passState hregistry log k).typeCall hregistry id).1.retypes
          -- the answer for the call is the one from before this step
          have hbefore : (g.passState registry config log k).graph.typeNode registry config other =
              .ok type := by
            refine hstep.symm.typeNode hregistry (fun input hinput t ht => ?_) hok
            rw [hstep.inputs_eq, hrefines.retypes.inputs_eq] at hinput
            rwa [typeOf_typeCall_of_ne hmem (hordered.input_ne hid hother hinput)] at ht
          by_cases heq : id = other
          · subst heq
            exact typeOf_typeCall_self hmem hbefore
          · rw [typeOf_typeCall_of_ne hmem heq]
            rcases (mem_take_succ_calls hid).1 hother with hother | hother
            · exact ih other hother type hbefore
            · exact absurd hother.symm heq

/-- One pass closes a graph in which operands stand before their users. -/
theorem Ordered.closed_typeCheck (hregistry : registry.BuiltFrom OpDef.IsVariant)
    (hordered : g.Ordered) (h : Coherent registry config g) (log : DiagnosticLog) :
    Closed registry config (g.typeCheck registry config log).graph := by
  intro id type hok
  have hid := mem_calls_of_typeNode hregistry hok
  rw [(h.typeCheck hregistry log).1.retypes.calls_eq, ← List.take_length (l := g.calls)] at hid
  rw [← passState_of_le (Nat.le_refl _)] at hok ⊢
  exact hordered.typeOf_passState hregistry h log _ id hid type hok

/-! ### Soundness and completeness -/

/-- In a coherent closed graph the typed names are the derivable ones. -/
theorem Closed.typeOf_iff_derives (hregistry : registry.BuiltFrom OpDef.IsVariant)
    (hclosed : Closed registry config g) (h : Coherent registry config g) {id : NodeId}
    {t : TensorType} : g.typeOf id = .tensor t ↔ Derives registry config g id t :=
  ⟨h.sound id t, hclosed.complete hregistry⟩

/-- As many calls are typed as have a derivation. -/
theorem countP_isTyped (hregistry : registry.BuiltFrom OpDef.IsVariant)
    (hclosed : Closed registry config g) (h : Coherent registry config g) :
    g.calls.countP g.isTyped = {id | id ∈ g.calls ∧ ∃ t, Derives registry config g id t}.ncard := by
  have hset : {id | id ∈ g.calls ∧ ∃ t, Derives registry config g id t} =
      ((g.calls.filter g.isTyped).toFinset : Set NodeId) := by
    ext id
    simp only [Set.mem_ofPred_eq, List.coe_toFinset, List.mem_filter, isTyped_iff,
      hclosed.typeOf_iff_derives hregistry h]
  rw [hset, Set.ncard_coe_finset, List.toFinset_card_of_nodup (g.calls_nodup.filter _),
    List.countP_eq_length_filter]

theorem Retypes.derives_iff {g' : Graph} (h : Retypes g g') {id : NodeId} {t : TensorType} :
    Derives registry config g' id t ↔ Derives registry config g id t :=
  ⟨h.symm.derives, h.derives⟩

/-- **One pass over a graph with operands before their users is sound and complete.** A call
has a tensor type afterwards exactly if the type is derivable, every other call is still
without a type, and the pass counts the calls that have a derivation. -/
theorem typeCheck_sound_complete (hregistry : registry.BuiltFrom OpDef.IsVariant)
    (hordered : g.Ordered) (hfresh : g.Fresh) (log : DiagnosticLog) :
    (∀ id ∈ g.calls, ∀ t, (g.typeCheck registry config log).graph.typeOf id = .tensor t ↔
      Derives registry config g id t) ∧
    (∀ id ∈ g.calls, (¬ ∃ t, Derives registry config g id t) →
      (g.typeCheck registry config log).graph.typeOf id = .incomplete) ∧
    (g.typeCheck registry config log).resolved =
      {id | id ∈ g.calls ∧ ∃ t, Derives registry config g id t}.ncard := by
  have h : Coherent registry config g := hfresh.coherent
  obtain ⟨hrefines, hcoherent⟩ := h.typeCheck hregistry log
  have hclosed := hordered.closed_typeCheck hregistry h log
  have hiff : ∀ id t, (g.typeCheck registry config log).graph.typeOf id = .tensor t ↔
      Derives registry config g id t := fun id t => by
    rw [hclosed.typeOf_iff_derives hregistry hcoherent, hrefines.retypes.derives_iff]
  refine ⟨fun id _ t => hiff id t, fun id hid hnone => ?_, ?_⟩
  · rw [← hrefines.retypes.calls_eq] at hid
    rcases hcoherent.typeOf_cases hregistry hid with hincomplete | ⟨t, ht⟩
    · exact hincomplete
    · exact absurd ⟨t, (hiff id t).1 ht⟩ hnone
  · rw [h.resolved_typeCheck hregistry, countP_isTyped hregistry hclosed hcoherent]
    simp only [hrefines.retypes.derives_iff, hrefines.retypes.calls_eq]

/-- Data `[1, 2, 4]`, thresholds `[2, 4]`, a `UINT2` call on them and an `INT2` call on its
result; then a call whose data is missing. -/
def twoCalls : Graph where
  nodes := #[
    { op := .var "x", inputs := [], type := .tensor ⟨⟨[1, 2, 4]⟩, .float32⟩, payload? := none },
    { op := .var "t", inputs := [], type := .tensor ⟨⟨[2, 4]⟩, .float32⟩, payload? := none },
    { op := .multiThreshold ⟨"UINT2", .zero⟩, inputs := [0, 1], type := .incomplete,
      payload? := none },
    { op := .multiThreshold ⟨"INT2", .ofInt .binary64 (-2)⟩, inputs := [2, 1],
      type := .incomplete, payload? := none },
    { op := .multiThreshold ⟨"UINT2", .zero⟩, inputs := [7, 1], type := .incomplete,
      payload? := none }]

theorem typeCheck_sound_complete_twoCalls :
    twoCalls.Ordered ∧ twoCalls.Fresh ∧
    (∀ id ∈ twoCalls.calls, ∀ t,
      (twoCalls.typeCheck .builtin {} .empty).graph.typeOf id = .tensor t ↔
        Derives .builtin {} twoCalls id t) ∧
    (∀ id ∈ twoCalls.calls, (¬ ∃ t, Derives .builtin {} twoCalls id t) →
      (twoCalls.typeCheck .builtin {} .empty).graph.typeOf id = .incomplete) ∧
    (twoCalls.typeCheck .builtin {} .empty).resolved =
      {id | id ∈ twoCalls.calls ∧ ∃ t, Derives .builtin {} twoCalls id t}.ncard :=
  ⟨by decide, by decide, typeCheck_sound_complete .builtin (by decide) (by decide) .empty⟩

example : (twoCalls.typeCheck .builtin {} .empty).graph.typeOf 3 =
    .tensor ⟨⟨[1, 2, 4]⟩, .float32⟩ := by decide +kernel

example : (twoCalls.typeCheck .builtin {} .empty).resolved = 2 := by decide +kernel

end Graph

end Thresholding
