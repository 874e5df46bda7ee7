import Thresholding.Proofs.Typing.RepeatedPass

/-!
# Thresholding.Proofs.Typing.DataChain

**Where the type of a call comes from.** A call that passes have typed has the type of its data, and
if that is a call in turn, of the data of that call. Going on in this way one comes to a source,
also in a graph with cycles: a recorded type has a derivation, and the derivation is finite
(`Derives.exists_source`).

The shape function of the operator tells a host the same without any types: the shape that it finds
from the shapes of the operands is that of the recorded type.
-/

namespace Thresholding

/-- The shape function agrees with the typing rule wherever the rule gives a type. -/
theorem thresholdShape_of_inferType {data thresholds t : TensorType} {attrs : ThresholdAttrs}
    {config : Config} (h : inferType (.tensor data) (.tensor thresholds) attrs config = .ok t) :
    thresholdShape [data.shape, thresholds.shape] = .ok t.shape := by
  obtain ⟨hdata, -⟩ := inferType_eq_ok_iff.1 h
  cases hdata
  rfl

namespace Graph

variable {registry : Registry} {config : Config} {g : Graph} {id : NodeId} {t : TensorType}

/-! ### The chain of data -/

/-- A name is the first input of a call. -/
def DataOf (g : Graph) (id input : NodeId) : Prop := id ∈ g.calls ∧ (g.inputs id).head? = some input

/-- A name is that of a source of a given tensor type. -/
def IsSourceOf (g : Graph) (id : NodeId) (t : TensorType) : Prop :=
  ∃ node, g.node? id = some node ∧ node.op.isSource = true ∧ node.type = .tensor t

theorem Applies.dataOf {data thresholds : NodeId} {attrs : ThresholdAttrs}
    (h : Applies registry g id attrs data thresholds) : g.DataOf id data :=
  ⟨h.mem_calls, by rw [h.inputs_eq]; rfl⟩

theorem IsSourceOf.notMem_calls (h : g.IsSourceOf id t) : id ∉ g.calls := by
  intro hid
  obtain ⟨node, hnode, hsource, -⟩ := h
  obtain ⟨node', hnode', hcall⟩ := mem_calls.1 hid
  cases hnode.symm.trans hnode'
  exact absurd (hsource.symm.trans hcall) (by decide)

/-- **A derivation follows the data down to a source**, whose type is the one that is derived. -/
theorem Derives.exists_source (h : Derives registry config g id t) :
    ∃ source, Relation.ReflTransGen g.DataOf id source ∧ g.IsSourceOf source t := by
  induction h with
  | source hnode hsource htype => exact ⟨_, .refl, _, hnode, hsource, htype⟩
  | call happlies _ _ _ ihdata _ =>
      obtain ⟨source, hchain, hsource⟩ := ihdata
      exact ⟨source, hchain.head happlies.dataOf, hsource⟩

/-- From a call there is at least one step to go. -/
theorem Derives.exists_source_of_mem_calls (h : Derives registry config g id t)
    (hid : id ∈ g.calls) :
    ∃ source, Relation.TransGen g.DataOf id source ∧ g.IsSourceOf source t := by
  obtain ⟨source, hchain, hsource⟩ := h.exists_source
  rcases Relation.reflTransGen_iff_eq_or_transGen.1 hchain with rfl | hchain
  · exact absurd hid hsource.notMem_calls
  · exact ⟨source, hchain, hsource⟩

/-! ### Typed calls -/

/-- A tensor type recorded on a call is that of its data, and what the shape function says. -/
structure FollowsData (registry : Registry) (g : Graph) (id : NodeId) (t : TensorType) : Prop where
  /-- From data to data one comes to a source of this type. -/
  source : ∃ source, Relation.TransGen g.DataOf id source ∧ g.IsSourceOf source t
  /-- The call has two operands with tensor types, from whose shapes the registered shape function
  finds the shape of this type. -/
  shape : ∃ node name d data thresholds u v, g.node? id = some node ∧ node.op.name? = some name ∧
    registry.get? name = some d ∧ node.inputs = [data, thresholds] ∧
    g.typeOf data = .tensor u ∧ g.typeOf thresholds = .tensor v ∧
    d.shape [u.shape, v.shape] = .ok t.shape

/-- **In a coherent graph every typed call follows its data.** -/
theorem Coherent.followsData (h : Coherent .builtin config g) (hid : id ∈ g.calls)
    (ht : g.typeOf id = .tensor t) : FollowsData .builtin g id t where
  source := (h.sound id t ht).exists_source_of_mem_calls hid
  shape := by
    obtain ⟨attrs, data, thresholds, _, u, happlies, hdata, hthresholds, hsuits, htype⟩ :=
      (typeNode_eq_ok_iff .builtin).1 (h.typeNode_eq hid ht)
    cases htype
    obtain ⟨node, hnode, hop, hinputs⟩ := happlies.node
    have hname : node.op.name? = some Op.multiThresholdName := by rw [hop]; rfl
    have hinfer : inferType (.tensor t) (.tensor u) attrs config = .ok t :=
      inferType_eq_ok_iff.2 ⟨rfl, u, rfl, hsuits⟩
    exact ⟨node, _, .multiThreshold, data, thresholds, t, u, hnode, hname, rfl, hinputs, hdata,
      hthresholds, thresholdShape_of_inferType hinfer⟩

/-- **Passes type every call by its data**, over any graph and however many passes there were. -/
theorem followsData_passes (hfresh : g.Fresh) (config : Config) (logs : Nat → DiagnosticLog)
    (n : Nat) (hid : id ∈ g.calls) (ht : (g.passes .builtin config logs n).typeOf id = .tensor t) :
    FollowsData .builtin (g.passes .builtin config logs n) id t := by
  have h : Coherent .builtin config g := hfresh.coherent
  rw [← (h.refines_passes .builtin logs n).retypes.calls_eq] at hid
  exact (h.passes .builtin logs n).followsData hid ht

/-- The first call gets the type of the input two steps away, in the second pass. The graph has a
call on itself as well. -/
theorem followsData_passes_forwardCalls :
    forwardCalls.Fresh ∧ 0 ∈ forwardCalls.calls ∧
    (forwardCalls.passes .builtin {} (fun _ => .empty) 2).typeOf 0 =
      .tensor ⟨⟨[1, 2, 4]⟩, .float32⟩ ∧
    FollowsData .builtin (forwardCalls.passes .builtin {} (fun _ => .empty) 2) 0
      ⟨⟨[1, 2, 4]⟩, .float32⟩ := by
  have hfresh : forwardCalls.Fresh := by decide
  have hid : 0 ∈ forwardCalls.calls := by decide
  have ht : (forwardCalls.passes .builtin {} (fun _ => .empty) 2).typeOf 0 =
      .tensor ⟨⟨[1, 2, 4]⟩, .float32⟩ := by decide +kernel
  exact ⟨hfresh, hid, ht, followsData_passes hfresh {} _ 2 hid ht⟩

end Graph

end Thresholding
