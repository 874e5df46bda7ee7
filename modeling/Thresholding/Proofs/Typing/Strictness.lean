import Thresholding.Proofs.Typing.Reports

/-!
# Thresholding.Proofs.Typing.Strictness

**What the configuration decides about a pass.**

The mode in which keywords are looked for decides the texts of errors and nothing else: two passes
that differ in it go through the same graphs, call by call, and report the same calls
(`typeCheck_mode`). Legal widths of zero let a pass resolve more calls. That never costs another
call its type, on a graph where no call has one yet: the pass that allows less is followed by the
other one, which has typed at least as much whenever it comes to a call (`typeOf_passState_lenient`).
-/

namespace Thresholding

variable {registry : Registry} {config config' : Config}

/-! ### The mode in the typing rule -/

/-- In either mode a text is read as the same domain, or refused in both. -/
theorem IntDomain.parse_mode_cases (h : config'.allowZeroWidth = config.allowZeroWidth)
    (descriptor : String) :
    (∃ d, parse config descriptor = .ok d ∧ parse config' descriptor = .ok d) ∨
      ∃ cause cause', parse config descriptor = .error cause ∧
        parse config' descriptor = .error cause' := by
  have hsame := toOption_parse_eq h descriptor
  cases hparse : parse config descriptor with
  | ok d =>
      rw [hparse] at hsame
      exact Or.inl ⟨d, rfl, toOption_eq_some_iff.1 hsame⟩
  | error cause =>
      cases hparse' : parse config' descriptor with
      | ok d => rw [hparse, hparse'] at hsame; exact absurd hsame (by simp [Except.toOption])
      | error cause' => exact Or.inr ⟨cause, cause', rfl, rfl⟩

/-- The mode changes at most what the typing rule finds wrong with a descriptor. -/
theorem inferType_mode_cases (h : config'.allowZeroWidth = config.allowZeroWidth)
    (data thresholds : ExprType) (attrs : ThresholdAttrs) :
    inferType data thresholds attrs config' = inferType data thresholds attrs config ∨
      ∃ cause cause', inferType data thresholds attrs config = .error (.badDescriptor cause) ∧
        inferType data thresholds attrs config' = .error (.badDescriptor cause') := by
  cases data with
  | tuple fields => exact Or.inl rfl
  | incomplete => exact Or.inl rfl
  | tensor t =>
      cases thresholds with
      | tuple fields => exact Or.inl rfl
      | incomplete => exact Or.inl rfl
      | tensor u =>
          unfold inferType
          rcases IntDomain.parse_mode_cases h attrs.outDtype with
            ⟨d, hparse, hparse'⟩ | ⟨cause, cause', hparse, hparse'⟩
          · rw [hparse, hparse']
            exact Or.inl rfl
          · rw [hparse, hparse']
            exact Or.inr ⟨cause, cause', rfl, rfl⟩

theorem thresholdRelation_mode_cases (h : config'.allowZeroWidth = config.allowZeroWidth)
    (op : Op) (slots : List ExprType) :
    thresholdRelation op config' slots = thresholdRelation op config slots ∨
      ∃ cause cause', thresholdRelation op config slots = (.error (.badDescriptor cause), slots) ∧
        thresholdRelation op config' slots = (.error (.badDescriptor cause'), slots) := by
  match op, slots with
  | .var _, _ => exact Or.inl rfl
  | .constant, _ => exact Or.inl rfl
  | .multiThreshold _, [] => exact Or.inl rfl
  | .multiThreshold _, [_] => exact Or.inl rfl
  | .multiThreshold _, [_, _] => exact Or.inl rfl
  | .multiThreshold _, _ :: _ :: _ :: _ :: _ => exact Or.inl rfl
  | .multiThreshold attrs, [data, thresholds, result] =>
      simp only [thresholdRelation]
      rcases inferType_mode_cases h data thresholds attrs with
        hsame | ⟨cause, cause', herror, herror'⟩
      · rw [hsame]
        exact Or.inl rfl
      · rw [herror, herror']
        exact Or.inr ⟨cause, cause', rfl, rfl⟩

/-! ### The mode in a pass -/

/-- Two diagnostics that differ at most in their message. -/
def Diagnostic.SameButMessage (d d' : Diagnostic) : Prop := d' = { d with message := d'.message }

theorem Diagnostic.SameButMessage.refl (d : Diagnostic) : d.SameButMessage d := rfl

theorem Diagnostic.SameButMessage.atNode {d d' : Diagnostic} (h : d.SameButMessage d')
    (id : NodeId) : (d.atNode id).SameButMessage (d'.atNode id) := by
  unfold SameButMessage at h
  rw [h]
  rfl

namespace Graph

variable {g : Graph} {log : DiagnosticLog} {id : NodeId}

/-- Two answers for a call that differ at most in the message of a diagnostic. -/
inductive AnswersAgree : Except Diagnostic ExprType → Except Diagnostic ExprType → Prop
  /-- The same type is found. -/
  | found (type : ExprType) : AnswersAgree (.ok type) (.ok type)
  /-- The call is reported in both. -/
  | reported {d d' : Diagnostic} : d.SameButMessage d' → AnswersAgree (.error d) (.error d')

theorem AnswersAgree.refl (answer : Except Diagnostic ExprType) : AnswersAgree answer answer := by
  cases answer with
  | ok type => exact .found type
  | error d => exact .reported (.refl d)

theorem AnswersAgree.isOk_eq {answer answer' : Except Diagnostic ExprType}
    (h : AnswersAgree answer answer') : answer'.isOk = answer.isOk := by
  cases h with
  | found type => rfl
  | reported _ => rfl

/-- **The mode changes at most a message** of what there is to say of a call. -/
theorem typeNode_mode (hregistry : registry.BuiltFrom OpDef.IsVariant)
    (h : config'.allowZeroWidth = config.allowZeroWidth) (g : Graph) (id : NodeId) :
    AnswersAgree (g.typeNode registry config id) (g.typeNode registry config' id) := by
  unfold typeNode
  cases g.node? id with
  | none => exact .refl _
  | some node =>
      dsimp only
      unfold Registry.typeSlots
      cases node.op.name? with
      | none => exact .refl _
      | some name =>
          dsimp only
          cases hd : registry.get? name with
          | none => exact .refl _
          | some definition =>
              dsimp only
              rw [hregistry.relation_eq hd]
              split
              · rcases thresholdRelation_mode_cases h node.op (g.slots node) with
                  hsame | ⟨cause, cause', herror, herror'⟩
                · rw [hsame]
                  exact .refl _
                · rw [herror, herror']
                  exact .reported rfl
              · exact .refl _

theorem graph_typeCall_mode (hregistry : registry.BuiltFrom OpDef.IsVariant)
    (h : config'.allowZeroWidth = config.allowZeroWidth) {s s' : PassState}
    (hgraph : s'.graph = s.graph) (id : NodeId) :
    (typeCall registry config' s' id).graph = (typeCall registry config s id).graph := by
  have hanswers := typeNode_mode hregistry h s.graph id
  unfold typeCall
  rw [hgraph]
  generalize s.graph.typeNode registry config id = answer at hanswers ⊢
  generalize s.graph.typeNode registry config' id = answer' at hanswers ⊢
  cases hanswers with
  | found type => rfl
  | reported _ => rfl

/-- Passes that differ in the mode go through the same graphs. -/
theorem graph_passState_mode (hregistry : registry.BuiltFrom OpDef.IsVariant)
    (h : config'.allowZeroWidth = config.allowZeroWidth) (log : DiagnosticLog) (k : Nat) :
    (g.passState registry config' log k).graph = (g.passState registry config log k).graph := by
  induction k with
  | zero => rw [passState_zero, passState_zero]
  | succ k ih =>
      cases hid : g.calls[k]? with
      | none => rw [passState_succ_of_none hid, passState_succ_of_none hid, ih]
      | some id =>
          rw [passState_succ hid, passState_succ hid]
          exact graph_typeCall_mode hregistry h ih id

theorem found_mode (hregistry : registry.BuiltFrom OpDef.IsVariant)
    (h : config'.allowZeroWidth = config.allowZeroWidth) (log : DiagnosticLog) (id : NodeId) :
    AnswersAgree (g.found registry config log id) (g.found registry config' log id) := by
  unfold found
  rw [graph_passState_mode hregistry h]
  exact typeNode_mode hregistry h _ id

theorem forall₂_filterMap_reportOf {found found' : NodeId → Except Diagnostic ExprType}
    (h : ∀ id, AnswersAgree (found id) (found' id)) (ids : List NodeId) :
    List.Forall₂ Diagnostic.SameButMessage (ids.filterMap fun id => reportOf id (found id))
      (ids.filterMap fun id => reportOf id (found' id)) := by
  induction ids with
  | nil => exact .nil
  | cons id rest ih =>
      have hanswers := h id
      simp only [List.filterMap_cons]
      generalize found id = answer at hanswers ⊢
      generalize found' id = answer' at hanswers ⊢
      cases hanswers with
      | found type => exact ih
      | reported hsame => exact .cons (hsame.atNode id) ih

/-- Two passes come to the same but for the messages of what they report: the same graph, as many
calls, and as many diagnostics, each with the node, the severity and the remarks of its
counterpart. -/
structure PassesAgreeButMessages (log : DiagnosticLog) (p p' : PassState) : Prop where
  /-- The graphs are the same. -/
  graph : p'.graph = p.graph
  /-- As many calls were typed. -/
  resolved : p'.resolved = p.resolved
  /-- What was reported differs at most in the messages. -/
  reported : ∃ reported reported', p.log.entries = log.entries ++ reported ∧
    p'.log.entries = log.entries ++ reported' ∧
    List.Forall₂ Diagnostic.SameButMessage reported reported'

/-- **The mode decides the messages of a pass and nothing else.** -/
theorem typeCheck_mode (hregistry : registry.BuiltFrom OpDef.IsVariant)
    (h : config'.allowZeroWidth = config.allowZeroWidth) (g : Graph) (log : DiagnosticLog) :
    PassesAgreeButMessages log (g.typeCheck registry config log)
      (g.typeCheck registry config' log) := by
  constructor
  case graph =>
    rw [← passState_of_le (Nat.le_refl _), ← passState_of_le (Nat.le_refl _)]
    exact graph_passState_mode hregistry h log _
  case resolved =>
    rw [typeCheck_found.1, typeCheck_found.1]
    apply List.countP_congr
    intro id _
    rw [(found_mode hregistry h log id).isOk_eq]
  case reported =>
    refine ⟨appended registry config log g, appended registry config' log g, ?_, ?_, ?_⟩
    · rw [log_typeCheck, DiagnosticLog.entries_addAll]
    · rw [log_typeCheck, DiagnosticLog.entries_addAll]
    · exact forall₂_filterMap_reportOf (found_mode hregistry h log) g.calls

/-! ### Widths of zero -/

/-- What is found at a call is found at it also where no less is allowed. -/
theorem typeNode_lenient (hregistry : registry.BuiltFrom OpDef.IsVariant)
    (hallow : config.allowZeroWidth = true → config'.allowZeroWidth = true) {type : ExprType}
    (hok : g.typeNode registry config id = .ok type) :
    g.typeNode registry config' id = .ok type := by
  obtain ⟨attrs, data, thresholds, t, u, happlies, hdata, hthresholds, hsuits, htype⟩ :=
    (typeNode_eq_ok_iff hregistry).1 hok
  obtain ⟨d, hlegal, hlast, hbias⟩ := hsuits
  exact (typeNode_eq_ok_iff hregistry).2 ⟨attrs, data, thresholds, t, u, happlies, hdata,
    hthresholds, ⟨d, hlegal.mono hallow, hlast, hbias⟩, htype⟩

/-- **A lenient pass has typed no less than a strict one**, whenever they come to a call. -/
theorem typeOf_passState_lenient (hregistry : registry.BuiltFrom OpDef.IsVariant)
    (hallow : config.allowZeroWidth = true → config'.allowZeroWidth = true) (hfresh : g.Fresh)
    (log : DiagnosticLog) (k : Nat) {other : NodeId} {t : TensorType}
    (ht : (g.passState registry config log k).graph.typeOf other = .tensor t) :
    (g.passState registry config' log k).graph.typeOf other = .tensor t := by
  induction k generalizing other t with
  | zero =>
      rw [passState_zero] at ht ⊢
      exact ht
  | succ k ih =>
      by_cases hid : g.calls[k]? = some other
      · have hother : other ∈ g.calls := List.mem_of_getElem? hid
        rw [passState_succ hid] at ht ⊢
        rcases typeCall_cases (g.passState registry config log k) other with
          ⟨type, hok, -⟩ | ⟨d, -, hstep⟩
        · rw [typeOf_typeCall_self (mem_calls_passState k hother) hok] at ht
          have hretypes : Retypes (g.passState registry config log k).graph
              (g.passState registry config' log k).graph :=
            (retypes_passState k).symm.trans (retypes_passState k)
          have hok' := hretypes.typeNode hregistry (fun _ _ _ => ih) hok
          rw [typeOf_typeCall_self (mem_calls_passState k hother)
            (typeNode_lenient hregistry hallow hok'), ht]
        · -- the strict pass has never come to this call, which had no type to begin with
          rw [hstep, typeOf_passState_of_forall_ne, hfresh other hother] at ht
          · exact absurd ht (by simp)
          · exact fun j hj hj' => absurd (index_unique hj' hid) (Nat.ne_of_lt hj)
      · rw [typeOf_passState_succ_of_ne hid] at ht ⊢
        exact ih ht

theorem found_lenient (hregistry : registry.BuiltFrom OpDef.IsVariant)
    (hallow : config.allowZeroWidth = true → config'.allowZeroWidth = true) (hfresh : g.Fresh)
    {type : ExprType} (hok : g.found registry config log id = .ok type) :
    g.found registry config' log id = .ok type := by
  have hretypes : Retypes (g.passState registry config log (g.calls.idxOf id)).graph
      (g.passState registry config' log (g.calls.idxOf id)).graph :=
    (retypes_passState _).symm.trans (retypes_passState _)
  refine typeNode_lenient hregistry hallow (hretypes.typeNode hregistry ?_ hok)
  intro _ _ _
  exact typeOf_passState_lenient hregistry hallow hfresh log _

/-- **What the configuration decides.** On every graph, from any recorded types, the two modes give
the same graph, the same count and diagnostics that differ at most in their messages. On a graph
whose calls have no types, a call that resolves where widths of zero are refused resolves where they
are allowed, and both passes record one tensor type on it. -/
theorem strictness_typeCheck (hregistry : registry.BuiltFrom OpDef.IsVariant) (g : Graph)
    (log : DiagnosticLog) :
    (∀ allowZeroWidth, PassesAgreeButMessages log
      (g.typeCheck registry ⟨.substring, allowZeroWidth⟩ log)
      (g.typeCheck registry ⟨.anchored, allowZeroWidth⟩ log)) ∧
    (g.Fresh → ∀ mode mode' id, Resolves registry ⟨mode, false⟩ log g id →
      Resolves registry ⟨mode', true⟩ log g id ∧
        ∃ t, (g.typeCheck registry ⟨mode, false⟩ log).graph.typeOf id = .tensor t ∧
          (g.typeCheck registry ⟨mode', true⟩ log).graph.typeOf id = .tensor t) := by
  constructor
  · intro allowZeroWidth
    apply typeCheck_mode hregistry
    rfl
  · intro hfresh mode mode' id hresolves
    obtain ⟨hid, type, hok⟩ := resolves_iff_found.1 hresolves
    have hok' : g.found registry ⟨mode', true⟩ log id = .ok type :=
      found_lenient hregistry (fun _ => rfl) hfresh hok
    obtain ⟨_, _, _, t, _, -, -, -, -, rfl⟩ := (typeNode_eq_ok_iff hregistry).1 hok
    exact ⟨resolves_iff_found.2 ⟨hid, _, hok'⟩, t, typeOf_typeCheck_of_ok hid hok,
      typeOf_typeCheck_of_ok hid hok'⟩

/-- Data, thresholds with one entry along their last axis, and thresholds with four; a call onto a
domain without bits, a call on its result, a call on the data, and a call whose descriptor has its
keyword further right. -/
def narrowAndWideCalls : Graph where
  nodes := #[
    { op := .var "x", inputs := [], type := .tensor ⟨⟨[1, 2]⟩, .float32⟩, payload? := none },
    { op := .var "s", inputs := [], type := .tensor ⟨⟨[2, 1]⟩, .float32⟩, payload? := none },
    { op := .var "t", inputs := [], type := .tensor ⟨⟨[2, 4]⟩, .float32⟩, payload? := none },
    { op := .multiThreshold ⟨"UINT0", .zero⟩, inputs := [0, 1], type := .incomplete,
      payload? := none },
    { op := .multiThreshold ⟨"UINT2", .zero⟩, inputs := [3, 2], type := .incomplete,
      payload? := none },
    { op := .multiThreshold ⟨"UINT2", .zero⟩, inputs := [0, 2], type := .incomplete,
      payload? := none },
    { op := .multiThreshold ⟨"XINT2", .zero⟩, inputs := [0, 2], type := .incomplete,
      payload? := none }]

theorem strictness_typeCheck_narrowAndWideCalls :
    PassesAgreeButMessages .empty (narrowAndWideCalls.typeCheck .builtin ⟨.substring, true⟩ .empty)
      (narrowAndWideCalls.typeCheck .builtin ⟨.anchored, true⟩ .empty) ∧
    narrowAndWideCalls.Fresh ∧
    Resolves .builtin ⟨.substring, false⟩ .empty narrowAndWideCalls 5 ∧
    Resolves .builtin ⟨.anchored, true⟩ .empty narrowAndWideCalls 5 ∧
    ∃ t, (narrowAndWideCalls.typeCheck .builtin ⟨.substring, false⟩ .empty).graph.typeOf 5 =
        .tensor t ∧
      (narrowAndWideCalls.typeCheck .builtin ⟨.anchored, true⟩ .empty).graph.typeOf 5 =
        .tensor t := by
  obtain ⟨hmodes, hwidths⟩ := strictness_typeCheck .builtin narrowAndWideCalls .empty
  have hfresh : narrowAndWideCalls.Fresh := by decide
  have hresolves : Resolves .builtin ⟨.substring, false⟩ .empty narrowAndWideCalls 5 := by
    refine resolves_iff_found.2 ⟨by decide, .tensor ⟨⟨[1, 2]⟩, .float32⟩, ?_⟩
    decide +kernel
  exact ⟨hmodes true, hfresh, hresolves, hwidths hfresh .substring .anchored 5 hresolves⟩

/-- Two more calls resolve where widths of zero are allowed. -/
example : ((narrowAndWideCalls.typeCheck .builtin ⟨.substring, false⟩ .empty).resolved,
    (narrowAndWideCalls.typeCheck .builtin ⟨.anchored, true⟩ .empty).resolved) = (1, 3) := by
  decide +kernel

end Graph

end Thresholding
