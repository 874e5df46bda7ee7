import Thresholding.Proofs.Evaluation.Kernel
import Thresholding.Proofs.Evaluation.Recursive
import Thresholding.Proofs.Typing.SinglePass

/-!
# Thresholding.Proofs.Evaluation.Progress

**Typed graphs evaluate**, as far as types can tell.

A type says nothing about what is fed, and the typing rule does not look at all that the
kernel needs of shapes. `Evaluable` is what is missing, node by node. In a coherent graph a
node that has its inputs' values has values of its own exactly if it is evaluable: a call has
the type of its data, and the kernel answers with as many values as the data has, so the
answer is never of the wrong length.
-/

namespace Thresholding

namespace Graph

variable {registry : Registry} {config : Config} {g : Graph} {feeds : Feeds} {id : NodeId}

/-- What a node needs, next to its inputs' values, to be evaluated by the reference backend. -/
inductive Evaluable (g : Graph) (feeds : Feeds) (id : NodeId) : Prop
  /-- A free input needs a feed with a value for each element of its type. -/
  | var {node : Node} {name : String} {type : TensorType} {values : Buffer} :
      g.node? id = some node → node.op = .var name → node.type = .tensor type →
      feeds id = some values → type.shape.Holds values → Evaluable g feeds id
  /-- A constant needs a value for each element of its type. -/
  | constant {node : Node} {type : TensorType} {values : Buffer} :
      g.node? id = some node → node.op = .constant → node.type = .tensor type →
      node.payload? = some values → type.shape.Holds values → Evaluable g feeds id
  /-- A call needs operands of shapes that the kernel takes. -/
  | call {node : Node} {attrs : ThresholdAttrs} {data thresholds : NodeId} {t u : TensorType} :
      g.node? id = some node → node.op = .multiThreshold attrs →
      node.inputs = [data, thresholds] → g.typeOf data = .tensor t →
      g.typeOf thresholds = .tensor u → Kernel.Fits t.shape u.shape → Evaluable g feeds id

/-! ### One call -/

/-- The reference backend answers a typed call exactly if the shapes of its operands fit. -/
theorem exists_answer_iff {attrs : ThresholdAttrs} {data thresholds : Operand}
    {t u result : TensorType} (hdata : data.OfType t) (hthresholds : thresholds.OfType u)
    (hsuits : attrs.Suits config u) :
    (∃ values, Kernel.answer { op := .multiThreshold attrs, operands := [data, thresholds], result } =
      .ok values) ↔ Kernel.Fits t.shape u.shape := by
  rw [← hdata.shape_eq, ← hthresholds.shape_eq]
  refine Kernel.exists_multiThreshold_iff ?_ fun last hlast => hsuits.last_nonneg ?_
  · exact hthresholds.shape_eq ▸ hthresholds.holds
  · exact hthresholds.shape_eq ▸ hlast

/-- The answer to a call is as long as the type of its data says. -/
theorem holds_of_answer {attrs : ThresholdAttrs} {data thresholds : Operand}
    {t result : TensorType} {values : Buffer} (hdata : data.OfType t)
    (h : Kernel.answer { op := .multiThreshold attrs, operands := [data, thresholds], result } =
      .ok values) : t.shape.Holds values :=
  hdata.holds.congr (Kernel.length_of_multiThreshold h)

/-- Two inputs that the recursion succeeds on make two operands of their types. -/
theorem exists_pair_of_madeOperand {data thresholds : NodeId} {t u : TensorType}
    {operands : List Operand} (hinputs : g.inputs id = [data, thresholds])
    (hdata : g.typeOf data = .tensor t) (hthresholds : g.typeOf thresholds = .tensor u)
    (h : List.Forall₂ (fun input p => g.madeOperand Kernel.answer feeds input = .ok p)
      (g.inputs id) operands) :
    ∃ d r, operands = [d, r] ∧ d.OfType t ∧ r.OfType u := by
  rw [hinputs] at h
  obtain ⟨d, _, hd, hrest, rfl⟩ := List.forall₂_cons_left_iff.1 h
  obtain ⟨r, _, hr, hnil, rfl⟩ := List.forall₂_cons_left_iff.1 hrest
  cases hnil
  exact ⟨d, r, rfl, ofType_of_madeOperand hd hdata, ofType_of_madeOperand hr hthresholds⟩

/-! ### One node -/

/-- What the recursion succeeds on is evaluable. -/
theorem Coherent.evaluable_of_madeOperand (hregistry : registry.BuiltFrom OpDef.IsVariant)
    (h : Coherent registry config g) {o : Operand}
    (hmade : g.madeOperand Kernel.answer feeds id = .ok o) : g.Evaluable feeds id := by
  obtain ⟨operands, hoperands, hoperand⟩ :=
    (acyclicFrom_of_madeOperand hmade).madeOperand_eq_ok_iff.1 hmade
  obtain ⟨node, type, values, hnode, htype, hvalues, hholds, -⟩ :=
    nodeOperand_eq_ok_iff.1 hoperand
  unfold ownValues at hvalues
  cases hop : node.op with
  | var name =>
      rw [hop] at hvalues
      cases hfeed : feeds id with
      | none => rw [hfeed] at hvalues; exact absurd hvalues (by simp)
      | some found =>
          rw [hfeed] at hvalues
          cases hvalues
          exact .var hnode hop htype hfeed hholds
  | constant =>
      rw [hop] at hvalues
      cases hpayload : node.payload? with
      | none => rw [hpayload] at hvalues; exact absurd hvalues (by simp)
      | some found =>
          rw [hpayload] at hvalues
          cases hvalues
          exact .constant hnode hop htype hpayload hholds
  | multiThreshold attrs =>
      rw [hop] at hvalues
      obtain ⟨data, thresholds, u, hinputs, hdata, hthresholds, hsuits⟩ :=
        h.exists_operands hregistry hnode hop htype
      obtain ⟨d, r, rfl, hd, hr⟩ :=
        exists_pair_of_madeOperand ((inputs_eq hnode).trans hinputs) hdata hthresholds hoperands
      exact .call hnode hop hinputs hdata hthresholds
        ((exists_answer_iff hd hr hsuits).1 ⟨values, hvalues⟩)

/-- The recursion succeeds on an evaluable node if it does so on the inputs. -/
theorem Coherent.exists_madeOperand (hregistry : registry.BuiltFrom OpDef.IsVariant)
    (h : Coherent registry config g) {type : TensorType} (htype : g.typeOf id = .tensor type)
    (hacyclic : g.AcyclicFrom id) (hevaluable : g.Evaluable feeds id)
    (hinputs : ∀ input ∈ g.inputs id, ∃ o, g.madeOperand Kernel.answer feeds input = .ok o) :
    ∃ o, g.madeOperand Kernel.answer feeds id = .ok o := by
  obtain ⟨operands, hoperands⟩ := exists_forall₂_iff.2 hinputs
  -- it is enough that the node has values, and as many as it should
  have hintro : ∀ {node : Node} {t : TensorType} {values : Buffer}, g.node? id = some node →
      node.type = .tensor t → ownValues Kernel.answer feeds id node t operands = .ok values →
      t.shape.Holds values → ∃ o, g.madeOperand Kernel.answer feeds id = .ok o :=
    fun hnode ht hvalues hholds => ⟨_, hacyclic.madeOperand_eq_ok_iff.2 ⟨operands, hoperands,
      nodeOperand_eq_ok_iff.2 ⟨_, _, _, hnode, ht, hvalues, hholds, rfl⟩⟩⟩
  cases hevaluable with
  | var hnode hop ht hfeed hholds =>
      refine hintro hnode ht ?_ hholds
      rw [ownValues, hop, hfeed]
  | constant hnode hop ht hpayload hholds =>
      refine hintro hnode ht ?_ hholds
      rw [ownValues, hop, hpayload]
  | call hnode hop hinputs hdata hthresholds hfits =>
      have ht := (typeOf_eq hnode).symm.trans htype
      obtain ⟨_, _, _, hinputs', hdata', hthresholds', hsuits⟩ :=
        h.exists_operands hregistry hnode hop ht
      cases hinputs.symm.trans hinputs'
      cases hdata.symm.trans hdata'
      cases hthresholds.symm.trans hthresholds'
      obtain ⟨d, r, rfl, hd, hr⟩ :=
        exists_pair_of_madeOperand ((inputs_eq hnode).trans hinputs) hdata hthresholds hoperands
      obtain ⟨values, hanswer⟩ := (exists_answer_iff hd hr hsuits).2 hfits
      refine hintro hnode ht ?_ (holds_of_answer hd hanswer)
      rw [ownValues, hop]
      exact hanswer

/-! ### Everything that is reached -/

/-- **The recursion succeeds exactly if everything it reaches is evaluable.** -/
theorem Coherent.exists_madeOperand_iff (hregistry : registry.BuiltFrom OpDef.IsVariant)
    (h : Coherent registry config g) (hfirst : g.InputsFirst)
    (htyped : ∀ x, g.Reaches id x → ∃ t, g.typeOf x = .tensor t) :
    (∃ o, g.madeOperand Kernel.answer feeds id = .ok o) ↔
      ∀ x, g.Reaches id x → g.Evaluable feeds x := by
  constructor
  · rintro hsucceeds x hreaches
    have hx : ∃ o, g.madeOperand Kernel.answer feeds x = .ok o := by
      induction hreaches with
      | refl => exact hsucceeds
      | tail _ hinput ih =>
          obtain ⟨o, ho⟩ := ih
          obtain ⟨operands, hoperands, -⟩ :=
            (acyclicFrom_of_madeOperand ho).madeOperand_eq_ok_iff.1 ho
          exact exists_forall₂_iff.1 ⟨operands, hoperands⟩ _ hinput
    obtain ⟨o, ho⟩ := hx
    exact h.evaluable_of_madeOperand hregistry ho
  · intro hevaluable
    -- inputs have smaller names
    induction id using Nat.strong_induction_on with
    | _ id ih =>
        obtain ⟨t, ht⟩ := htyped id .refl
        refine h.exists_madeOperand hregistry ht (hfirst.acyclicFrom id) (hevaluable id .refl)
          fun input hinput => ?_
        exact ih input (hfirst.lt_of_transGen (.single hinput))
          (fun x hx => htyped x (hx.head hinput)) fun x hx => hevaluable x (hx.head hinput)

theorem Retypes.inputsFirst {g' : Graph} (h : Retypes g g') (hfirst : g.InputsFirst) :
    g'.InputsFirst := by
  intro id hid input hinput
  rw [h.size_eq] at hid
  rw [h.inputs_eq] at hinput
  exact hfirst id hid input hinput

/-! ### The length of an answer -/

theorem exists_pair_of_operand {buffers : Buffers} {data thresholds : NodeId}
    {operands : List Operand}
    (h : [data, thresholds].mapM (g.operand buffers) = .ok operands) :
    ∃ d r, operands = [d, r] ∧ g.operand buffers data = .ok d ∧
      g.operand buffers thresholds = .ok r := by
  simp only [List.mapM_cons, List.mapM_nil, bind_eq_ok_iff] at h
  obtain ⟨d, hd, _, ⟨r, hr, _, hnil, hrest⟩, hoperands⟩ := h
  cases hnil
  cases hrest
  cases hoperands
  exact ⟨d, r, rfl, hd, hr⟩

/-- What has gone well when the reference backend has answered a call. -/
theorem Coherent.multiThreshold_of_nodeValues {σ : Type}
    (hregistry : registry.BuiltFrom OpDef.IsVariant) (h : Coherent registry config g)
    {buffers : Buffers} (hbuffers : g.Counted buffers) {node : Node} {type : TensorType}
    {attrs : ThresholdAttrs} (hnode : g.node? id = some node)
    (hop : node.op = .multiThreshold attrs) (htype : node.type = .tensor type) {s s' : σ}
    {values : Buffer}
    (hvalues : g.nodeValues .reference feeds buffers id node type s = (.ok values, s')) :
    ∃ data thresholds u, node.inputs.mapM (g.operand buffers) = .ok [data, thresholds] ∧
      data.OfType type ∧ thresholds.OfType u ∧ attrs.Suits config u ∧
      Kernel.multiThreshold data thresholds attrs.outBias = .ok values := by
  obtain ⟨data, thresholds, u, hinputs, hdata, hthresholds, hsuits⟩ :=
    h.exists_operands hregistry hnode hop htype
  unfold nodeValues at hvalues
  rw [hop, hinputs] at hvalues
  dsimp only at hvalues
  split at hvalues
  · exact absurd hvalues (by simp)
  · next operands hoperands =>
      obtain ⟨d, r, rfl, hd, hr⟩ := exists_pair_of_operand hoperands
      exact ⟨d, r, u, hinputs ▸ hoperands, hbuffers.operand hd hdata,
        hbuffers.operand hr hthresholds, hsuits, (Prod.mk.inj hvalues).1⟩

/-- What the reference backend answers to a call is as long as the type of the call says. -/
theorem Coherent.holds_of_nodeValues {σ : Type} (hregistry : registry.BuiltFrom OpDef.IsVariant)
    (h : Coherent registry config g) {buffers : Buffers} (hbuffers : g.Counted buffers)
    {node : Node} {type : TensorType} (hnode : g.node? id = some node)
    (hcall : node.op.isSource = false) (htype : node.type = .tensor type) {s s' : σ}
    {values : Buffer}
    (hvalues : g.nodeValues .reference feeds buffers id node type s = (.ok values, s')) :
    type.shape.Holds values := by
  cases hop : node.op with
  | var _ => rw [hop] at hcall; exact absurd hcall (by simp [Op.isSource])
  | constant => rw [hop] at hcall; exact absurd hcall (by simp [Op.isSource])
  | multiThreshold attrs =>
      obtain ⟨_, _, _, -, hdata, -, -, hanswer⟩ :=
        h.multiThreshold_of_nodeValues hregistry hbuffers hnode hop htype hvalues
      exact hdata.holds.congr (Kernel.length_of_multiThreshold hanswer)

/-! ### Typed graphs -/

/-- What evaluating an output with the reference backend comes to. -/
structure Progresses {σ : Type} (g : Graph) (feeds : Feeds) (output : NodeId) (s : σ) : Prop where
  /-- The output is evaluated exactly if everything it reaches is evaluable. -/
  evaluates : (∃ values, (g.evaluate .reference feeds output s).1 = .ok values) ↔
    ∀ id, g.Reaches output id → g.Evaluable feeds id
  /-- It has then as many values as its type has elements. -/
  holds : ∀ values, (g.evaluate .reference feeds output s).1 = .ok values →
    ∃ type, g.typeOf output = .tensor type ∧ type.shape.Holds values
  /-- Whenever the evaluation comes to a call and the backend answers, the answer has the
  length that the call needs. -/
  answers : ∀ done id rest buffers s₁, g.order [output] = done ++ id :: rest →
    g.evaluateAll .reference feeds done [] s = (.ok buffers, s₁) →
    ∀ node type, g.typedNode id = .ok (node, type) → node.op.isSource = false →
    ∀ values s₂, g.nodeValues .reference feeds buffers id node type s₁ = (.ok values, s₂) →
      checkLength id type values = .ok values

/-- With inputs before their users, evaluating and the recursion succeed together. -/
theorem InputsFirst.evaluate_eq_ok_iff {σ : Type} (hfirst : g.InputsFirst) {output : NodeId}
    {s : σ} {values : Buffer} : (g.evaluate .reference feeds output s).1 = .ok values ↔
      ∃ o, g.madeOperand Kernel.answer feeds output = .ok o ∧ o.values = values := by
  rw [Backend.reference, (hfirst.acyclicFrom output).evaluate_eq]
  cases g.madeOperand Kernel.answer feeds output <;> simp [Except.map]

/-- **A typed graph evaluates exactly when the kernel's conditions hold.**

The graph has been typed by one pass, inputs stand before their users, and everything that the
output reaches has a tensor type. -/
theorem progresses_typeCheck {σ : Type} (hregistry : registry.BuiltFrom OpDef.IsVariant)
    (hfirst : g.InputsFirst) (hfresh : g.Fresh) {log : DiagnosticLog} {output : NodeId}
    (htyped : ∀ id, (g.typeCheck registry config log).graph.Reaches output id →
      ∃ t, (g.typeCheck registry config log).graph.typeOf id = .tensor t)
    (feeds : Feeds) (s : σ) :
    Progresses (g.typeCheck registry config log).graph feeds output s := by
  obtain ⟨hrefines, hcoherent⟩ :=
    (hfresh.coherent : Coherent registry config g).typeCheck hregistry log
  have hfirst' := hrefines.retypes.inputsFirst hfirst
  constructor
  case evaluates =>
    rw [← hcoherent.exists_madeOperand_iff hregistry hfirst' htyped]
    simp only [hfirst'.evaluate_eq_ok_iff]
    exact ⟨fun ⟨_, o, ho, _⟩ => ⟨o, ho⟩, fun ⟨o, ho⟩ => ⟨o.values, o, ho, rfl⟩⟩
  case holds =>
    intro values h
    obtain ⟨o, ho, rfl⟩ := hfirst'.evaluate_eq_ok_iff.1 h
    obtain ⟨t, ht⟩ := htyped output .refl
    exact ⟨t, ht, (ofType_of_madeOperand ho ht).holds⟩
  case answers =>
    intro done id rest buffers s₁ _ hrun node type htypedNode hcall values s₂ hvalues
    obtain ⟨hnode, htype⟩ := typedNode_eq_ok_iff.1 htypedNode
    have hbuffers := (counted_nil _).evaluateAll hrun
    exact checkLength_eq_ok_iff.2
      ⟨hcoherent.holds_of_nodeValues hregistry hbuffers hnode hcall htype hvalues, rfl⟩

/-- The two calls of `twoCalls`, without the one that has no data. -/
def chainedCalls : Graph where
  nodes := twoCalls.nodes.pop

/-- Data for two channels, and two rows of thresholds. -/
def chainedFeeds : Feeds :=
  .ofList [(0, [0, 1, 2, 3, 4, 5, 6, 7].map (.ofNat .binary32)),
    (1, [1, 2, 3, 3, 4, 5, 6, 7].map (.ofNat .binary32))]

theorem progresses_typeCheck_chainedCalls :
    chainedCalls.InputsFirst ∧ chainedCalls.Fresh ∧
      Progresses (chainedCalls.typeCheck .builtin {} .empty).graph chainedFeeds 3 () := by
  have hfirst : chainedCalls.InputsFirst := by decide +kernel
  have hfresh : chainedCalls.Fresh := by decide +kernel
  refine ⟨hfirst, hfresh, progresses_typeCheck .builtin hfirst hfresh (fun id hid => ?_) _ _⟩
  have htyped : ∀ id < 4, (chainedCalls.typeCheck .builtin {} .empty).graph.isTyped id = true := by
    decide +kernel
  have hfirst' : (chainedCalls.typeCheck .builtin {} .empty).graph.InputsFirst := by
    decide +kernel
  exact isTyped_iff.1 (htyped id (Nat.lt_succ_of_le (hfirst'.le_of_reaches hid)))

/-- The first call counts to `0, 1, 2, 4` in one channel and to `1, 2, 3, 4` in the other; the
second call counts these and starts at `-2`. -/
example : ((chainedCalls.typeCheck .builtin {} .empty).graph.evaluate .reference chainedFeeds 3
    ()).1.toOption = some ([-2, -1, 0, 2, -2, -2, -2, -1].map (.ofInt .binary32)) := by
  decide +kernel

end Graph

end Thresholding
