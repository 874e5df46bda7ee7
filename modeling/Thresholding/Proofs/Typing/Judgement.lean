import Mathlib.Data.List.Basic
import Mathlib.Logic.Relation
import Thresholding.Proofs.Graph.Retyping
import Thresholding.Proofs.Registry.Variants
import Thresholding.Proofs.Typing.Rule
import Thresholding.Typing.Pass

/-!
# Thresholding.Proofs.Typing.Judgement

The **typing judgement** of graphs: which names have a tensor type, said without a pass.

`Derives` is the least relation that gives sources the types recorded on them and calls the
types of their data. A derivation is finite, so a call that reaches itself has none, and it
never looks at the types recorded on calls, so all retypings of a graph have the same
judgement (`Retypes.derives`).

A pass asks for one call at a time (`Graph.typeNode`). What it learns there depends on the
types recorded on the operands (`typeNode_eq_ok_iff`), and it learns no less when more of
them are known (`Retypes.typeNode`).
-/

namespace Thresholding

namespace Graph

variable {registry : Registry} {config : Config} {g g' : Graph}

/-! ### The judgement -/

/-- A call with the given attributes and operands, which is one that its operator can be
asked about: the operator is registered with two inputs and the call has two. -/
structure Applies (registry : Registry) (g : Graph) (id : NodeId) (attrs : ThresholdAttrs)
    (data thresholds : NodeId) : Prop where
  /-- The call. -/
  node : ∃ node, g.node? id = some node ∧ node.op = .multiThreshold attrs ∧
    node.inputs = [data, thresholds]
  /-- The definition of its operator. -/
  registered : ∃ d, registry.get? Op.multiThresholdName = some d ∧ d.numInputs = 2

/-- The names that have a tensor type. -/
inductive Derives (registry : Registry) (config : Config) (g : Graph) : NodeId → TensorType → Prop
  /-- A source has the tensor type that is recorded on it. -/
  | source {id : NodeId} {node : Node} {t : TensorType} :
      g.node? id = some node → node.op.isSource = true → node.type = .tensor t →
      Derives registry config g id t
  /-- A call has the type of its data, if its attributes suit the type of its thresholds. -/
  | call {id data thresholds : NodeId} {attrs : ThresholdAttrs} {t u : TensorType} :
      Applies registry g id attrs data thresholds →
      Derives registry config g data t → Derives registry config g thresholds u →
      attrs.Suits config u → Derives registry config g id t

theorem Applies.mem_calls {id data thresholds : NodeId} {attrs : ThresholdAttrs}
    (h : Applies registry g id attrs data thresholds) : id ∈ g.calls := by
  obtain ⟨node, hnode, hop, -⟩ := h.node
  exact Graph.mem_calls.2 ⟨node, hnode, by rw [hop]; rfl⟩

theorem Applies.inputs_eq {id data thresholds : NodeId} {attrs : ThresholdAttrs}
    (h : Applies registry g id attrs data thresholds) : g.inputs id = [data, thresholds] := by
  obtain ⟨node, hnode, -, hinputs⟩ := h.node
  rw [inputs, hnode]
  exact hinputs

theorem Retypes.applies (h : Retypes g g') {id data thresholds : NodeId} {attrs : ThresholdAttrs}
    (happlies : Applies registry g id attrs data thresholds) :
    Applies registry g' id attrs data thresholds := by
  obtain ⟨node, hnode, hop, hinputs⟩ := happlies.node
  exact ⟨⟨_, h.node hnode, hop, hinputs⟩, happlies.registered⟩

theorem Retypes.applies_iff (h : Retypes g g') {id data thresholds : NodeId}
    {attrs : ThresholdAttrs} : Applies registry g' id attrs data thresholds ↔
      Applies registry g id attrs data thresholds :=
  ⟨h.symm.applies, h.applies⟩

/-- The judgement does not look at the types recorded on calls. -/
theorem Retypes.derives (h : Retypes g g') {id : NodeId} {t : TensorType}
    (hderives : Derives registry config g id t) : Derives registry config g' id t := by
  induction hderives with
  | source hnode hsource htype => exact .source (h.source hnode hsource) hsource htype
  | call happlies _ _ hsuits ihdata ihthresholds =>
      exact .call (h.applies happlies) ihdata ihthresholds hsuits

/-! ### Cycles -/

/-- A name is an operand of a call. -/
def OperandOf (g : Graph) (operand id : NodeId) : Prop := id ∈ g.calls ∧ operand ∈ g.inputs id

/-- A derivation goes down along the operands of calls, and ends. -/
theorem Derives.acc {id : NodeId} {t : TensorType} (h : Derives registry config g id t) :
    Acc g.OperandOf id := by
  induction h with
  | source hnode hsource _ =>
      refine ⟨_, fun operand hoperand => ?_⟩
      obtain ⟨node, hnode', hcall⟩ := mem_calls.1 hoperand.1
      rw [hnode] at hnode'
      cases hnode'
      exact absurd (hsource.symm.trans hcall) (by decide)
  | call happlies _ _ _ ihdata ihthresholds =>
      refine ⟨_, fun operand hoperand => ?_⟩
      have hinput := hoperand.2
      rw [happlies.inputs_eq] at hinput
      rcases List.mem_cons.1 hinput with rfl | hinput
      · exact ihdata
      · exact List.mem_singleton.1 hinput ▸ ihthresholds

/-- A call that reaches itself through the operands of calls has no type. -/
theorem not_derives_of_cycle {id : NodeId} (hcycle : Relation.TransGen g.OperandOf id id)
    (t : TensorType) : ¬ Derives registry config g id t := by
  intro h
  induction h.acc.transGen with
  | intro id _ ih => exact ih id hcycle hcycle h

/-! ### Asking for one call -/

theorem slots_of_inputs {node : Node} {data thresholds : NodeId}
    (h : node.inputs = [data, thresholds]) :
    g.slots node = [g.typeOf data, g.typeOf thresholds, .incomplete] := by
  rw [slots, h]
  rfl

/-- Three slots are the slots of two inputs. -/
theorem inputs_of_slots {node : Node} {a b c : ExprType} (h : g.slots node = [a, b, c]) :
    ∃ data thresholds, node.inputs = [data, thresholds] ∧ g.typeOf data = a ∧
      g.typeOf thresholds = b := by
  unfold slots at h
  have hlength : node.inputs.length = 2 := by simpa using congrArg List.length h
  obtain ⟨data, thresholds, hinputs⟩ := List.length_eq_two.1 hlength
  rw [hinputs] at h
  simp only [List.map_cons, List.map_nil, List.cons_append, List.nil_append, List.cons.injEq] at h
  exact ⟨data, thresholds, hinputs, h.1, h.2.1⟩

/-- What has gone well when a type was found. -/
theorem typeNode_inv {id : NodeId} {type : ExprType}
    (h : g.typeNode registry config id = .ok type) :
    ∃ node name d slots, g.node? id = some node ∧ node.op.name? = some name ∧
      registry.get? name = some d ∧ node.inputs.length = d.numInputs ∧
      d.relation node.op config (g.slots node) = (.ok (), slots) ∧
      type = slots.getLastD .incomplete := by
  unfold typeNode at h
  split at h
  · exact absurd h (by simp)
  · next node hnode =>
      unfold Registry.typeSlots at h
      split at h
      · exact absurd h (by simp)
      · next name hname =>
          split at h
          · exact absurd h (by simp)
          · next d hd =>
              split at h
              · next hinputs =>
                  split at h
                  · next slots hrelation =>
                      cases h
                      exact ⟨node, name, d, slots, hnode, hname, hd, hinputs, hrelation, rfl⟩
                  · exact absurd h (by simp)
              · exact absurd h (by simp)

/-- **A call that its operator can be asked about is told by the typing rule**, which is asked for
the types recorded on its operands. -/
theorem Applies.typeNode_eq (hregistry : registry.BuiltFrom OpDef.IsVariant)
    {id data thresholds : NodeId} {attrs : ThresholdAttrs}
    (h : Applies registry g id attrs data thresholds) :
    g.typeNode registry config id =
      match inferType (g.typeOf data) (g.typeOf thresholds) attrs config with
      | .ok type => .ok (.tensor type)
      | .error e => .error e.toDiagnostic := by
  obtain ⟨node, hnode, hop, hinputs⟩ := h.node
  obtain ⟨definition, hd, hnum⟩ := h.registered
  have hname : node.op.name? = some Op.multiThresholdName := by rw [hop]; rfl
  have hlength : node.inputs.length = definition.numInputs := by rw [hinputs, hnum]; rfl
  have hrelation : definition.relation node.op config (g.slots node) =
      thresholdRelation (.multiThreshold attrs) config
        [g.typeOf data, g.typeOf thresholds, .incomplete] := by
    rw [hregistry.relation_eq hd, hop, slots_of_inputs hinputs]
  simp only [typeNode, Registry.typeSlots, hnode, hname, hd, if_pos hlength, hrelation,
    thresholdRelation]
  cases inferType (g.typeOf data) (g.typeOf thresholds) attrs config with
  | ok type => rfl
  | error e => rfl

/-- **What a pass learns at a call.** With a registry of variants the answer is a type exactly
when the call can be asked about, both operands have tensor types and the attributes suit
the thresholds; the type is that of the data. -/
theorem typeNode_eq_ok_iff (hregistry : registry.BuiltFrom OpDef.IsVariant) {id : NodeId}
    {type : ExprType} :
    g.typeNode registry config id = .ok type ↔
      ∃ attrs data thresholds t u, Applies registry g id attrs data thresholds ∧
        g.typeOf data = .tensor t ∧ g.typeOf thresholds = .tensor u ∧ attrs.Suits config u ∧
        type = .tensor t := by
  constructor
  · intro h
    obtain ⟨node, name, d, slots, hnode, hname, hd, hnum, hrelation, rfl⟩ := typeNode_inv h
    rw [hregistry.relation_eq hd] at hrelation
    cases hop : node.op with
    | var _ => rw [hop] at hname; exact absurd hname (by simp [Op.name?])
    | constant => rw [hop] at hname; exact absurd hname (by simp [Op.name?])
    | multiThreshold attrs =>
        rw [hop] at hname hrelation
        obtain ⟨_, _, _, t, hslots, hinfer, rfl⟩ := thresholdRelation_eq_ok_iff.1 hrelation
        obtain ⟨rfl, u, rfl, hsuits⟩ := inferType_eq_ok_iff.1 hinfer
        obtain ⟨data, thresholds, hinputs, hdata, hthresholds⟩ := inputs_of_slots hslots
        cases hname
        refine ⟨attrs, data, thresholds, t, u, ⟨⟨node, hnode, hop, hinputs⟩, d, hd, ?_⟩,
          hdata, hthresholds, hsuits, rfl⟩
        rw [← hnum, hinputs]
        rfl
  · rintro ⟨attrs, data, thresholds, t, u, happlies, hdata, hthresholds, hsuits, rfl⟩
    rw [happlies.typeNode_eq hregistry, hdata, hthresholds,
      inferType_eq_ok_iff.2 ⟨rfl, u, rfl, hsuits⟩]

/-- Only calls are given types. -/
theorem mem_calls_of_typeNode (hregistry : registry.BuiltFrom OpDef.IsVariant) {id : NodeId}
    {type : ExprType} (h : g.typeNode registry config id = .ok type) : id ∈ g.calls := by
  obtain ⟨_, _, _, _, _, happlies, -⟩ := (typeNode_eq_ok_iff hregistry).1 h
  exact happlies.mem_calls

/-- A call keeps its type as long as its operands keep theirs. -/
theorem Retypes.typeNode (hregistry : registry.BuiltFrom OpDef.IsVariant) (h : Retypes g g')
    {id : NodeId}
    (hkeeps : ∀ input ∈ g.inputs id, ∀ t, g.typeOf input = .tensor t → g'.typeOf input = .tensor t)
    {type : ExprType} (hok : g.typeNode registry config id = .ok type) :
    g'.typeNode registry config id = .ok type := by
  obtain ⟨attrs, data, thresholds, t, u, happlies, hdata, hthresholds, hsuits, htype⟩ :=
    (typeNode_eq_ok_iff hregistry).1 hok
  rw [happlies.inputs_eq] at hkeeps
  exact (typeNode_eq_ok_iff hregistry).2 ⟨attrs, data, thresholds, t, u, h.applies happlies,
    hkeeps data (by simp) t hdata, hkeeps thresholds (by simp) u hthresholds, hsuits, htype⟩

end Graph

end Thresholding
