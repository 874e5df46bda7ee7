import Thresholding.Proofs.Evaluation.Sequence
import Thresholding.Proofs.Failure

/-!
# Thresholding.Proofs.Evaluation.Invocations

**What a backend is asked**, and in which order.

The recording backend is followed beside the backend that it records: both are asked the same, and
the record grows with each invocation. So the invocations of an evaluation are the calls of its
order, one after the other, as far as the evaluation comes. A step asks for one call at most
(`evaluateNode_recording_cases`), and a step that fails is the last one.

Nothing is assumed of the backend. If it answers with too many values or too few, the
evaluation ends before they are an operand of another call.
-/

namespace Thresholding

namespace Graph

variable {σ : Type} {g : Graph} {backend : Backend σ} {feeds : Feeds} {buffers : Buffers}
  {ids : List NodeId} {id : NodeId} {node : Node} {type : TensorType} {s : σ}
  {calls : List Invocation}

/-- An invocation asks for the values of a call: with its operator and the type that is recorded
for it, on operands that are of the types that are recorded for its inputs. -/
structure Asks (g : Graph) (id : NodeId) (call : Invocation) : Prop where
  /-- The name is that of a call. -/
  mem_calls : id ∈ g.calls
  /-- The operator is that of the call. -/
  op_eq : (g.node? id).map (·.op) = some call.op
  /-- The type of the result is that of the call. -/
  result_eq : g.typeOf id = .tensor call.result
  /-- The operands are the inputs, in order. -/
  operands : List.Forall₂ (fun input o => ∃ type, g.typeOf input = .tensor type ∧ o.OfType type)
    (g.inputs id) call.operands

/-- The calls of an output's evaluation order. -/
def callOrder (g : Graph) (output : NodeId) : List NodeId :=
  (g.order [output]).filter (· ∈ g.calls)

/-! ### One node -/

theorem evaluateNode_of_typedNode (h : g.typedNode id = .ok (node, type)) :
    g.evaluateNode backend feeds buffers id s =
      ((g.nodeValues backend feeds buffers id node type s).1 >>= checkLength id type,
        (g.nodeValues backend feeds buffers id node type s).2) := by
  rw [evaluateNode, h]
  dsimp only
  split
  · next hvalues => rw [hvalues]; rfl
  · next hvalues => rw [hvalues]; rfl

/-- What is at hand for the inputs of a node is of the types that are recorded for them. -/
theorem Counted.operands (hbuffers : g.Counted buffers) {inputs : List NodeId}
    {operands : List Operand} (h : inputs.mapM (g.operand buffers) = .ok operands) :
    List.Forall₂ (fun input o => ∃ type, g.typeOf input = .tensor type ∧ o.OfType type)
      inputs operands := by
  refine (mapM_eq_ok_iff.1 h).imp fun input o ho => ?_
  obtain ⟨type, htype, -⟩ := hbuffers input o.values (lookup_of_operand ho)
  exact ⟨type, htype, hbuffers.operand ho htype⟩

/-- **A node is asked for once or not at all.** If it is a call that is not asked for, its
evaluation fails. -/
theorem evaluateNode_recording_cases (hbuffers : g.Counted buffers) (backend : Backend σ)
    (feeds : Feeds) (id : NodeId) (calls : List Invocation) (s : σ) :
    ∃ answer s', g.evaluateNode backend feeds buffers id s = (answer, s') ∧
      ((g.evaluateNode backend.recording feeds buffers id (calls, s) = (answer, (calls, s')) ∧
          (id ∈ g.calls → ∃ e, answer = .error e)) ∨
        ∃ call, g.evaluateNode backend.recording feeds buffers id (calls, s) =
          (answer, (calls ++ [call], s')) ∧ g.Asks id call) := by
  cases htyped : g.typedNode id with
  | error e =>
      refine ⟨.error e, s, by rw [evaluateNode, htyped], Or.inl ⟨by rw [evaluateNode, htyped], ?_⟩⟩
      exact fun _ => ⟨e, rfl⟩
  | ok found =>
      obtain ⟨node, type⟩ := found
      obtain ⟨hnode, htype⟩ := typedNode_eq_ok_iff.1 htyped
      rw [evaluateNode_of_typedNode htyped, evaluateNode_of_typedNode htyped]
      refine ⟨_, _, rfl, ?_⟩
      cases hop : node.op with
      | var name =>
          have hcall : id ∉ g.calls := by simp [mem_calls, hnode, hop, Op.isSource]
          exact Or.inl ⟨by simp only [nodeValues, hop], fun h => absurd h hcall⟩
      | constant =>
          have hcall : id ∉ g.calls := by simp [mem_calls, hnode, hop, Op.isSource]
          exact Or.inl ⟨by simp only [nodeValues, hop], fun h => absurd h hcall⟩
      | multiThreshold attrs =>
          simp only [nodeValues, hop]
          cases hoperands : node.inputs.mapM (g.operand buffers) with
          | error e => exact Or.inl ⟨rfl, fun _ => ⟨e, rfl⟩⟩
          | ok operands =>
              refine Or.inr ⟨{ op := .multiThreshold attrs, operands, result := type }, rfl, ?_⟩
              exact {
                mem_calls := mem_calls.2 ⟨node, hnode, by rw [hop]; rfl⟩
                op_eq := by rw [hnode, Option.map_some, hop]
                result_eq := (typeOf_eq hnode).trans htype
                operands := by
                  rw [inputs_eq hnode]
                  exact hbuffers.operands hoperands }

/-! ### Nodes in order -/

/-- **As far as the evaluation comes**, the calls among the nodes are asked for in order. -/
theorem evaluateAll_recording (hbuffers : g.Counted buffers) (backend : Backend σ) (feeds : Feeds)
    (ids : List NodeId) (calls : List Invocation) (s : σ) :
    ∃ answer s' new asked, g.evaluateAll backend feeds ids buffers s = (answer, s') ∧
      g.evaluateAll backend.recording feeds ids buffers (calls, s) = (answer, (calls ++ new, s')) ∧
      asked <+: ids.filter (· ∈ g.calls) ∧ List.Forall₂ g.Asks asked new ∧
      ∀ buffers', answer = .ok buffers' → asked = ids.filter (· ∈ g.calls) := by
  induction ids generalizing buffers calls s with
  | nil =>
      exact ⟨.ok buffers, s, [], [], rfl, by rw [List.append_nil]; rfl, List.nil_prefix, .nil,
        fun _ _ => rfl⟩
  | cons id ids ih =>
      obtain ⟨answer, s₁, hplain, hrecording⟩ :=
        evaluateNode_recording_cases hbuffers backend feeds id calls s
      cases answer with
      | error e =>
          rw [evaluateAll_cons_of_error hplain]
          rcases hrecording with ⟨hrecording, -⟩ | ⟨call, hrecording, hasks⟩
          · rw [evaluateAll_cons_of_error hrecording]
            exact ⟨.error e, s₁, [], [], rfl, by rw [List.append_nil], List.nil_prefix, .nil,
              fun _ h => absurd h (by simp)⟩
          · rw [evaluateAll_cons_of_error hrecording]
            refine ⟨.error e, s₁, [call], [id], rfl, rfl, ?_, .cons hasks .nil,
              fun _ h => absurd h (by simp)⟩
            simp [hasks.mem_calls]
      | ok values =>
          rw [evaluateAll_cons_of_ok hplain]
          rcases hrecording with ⟨hrecording, hfails⟩ | ⟨call, hrecording, hasks⟩
          · have hcall : id ∉ g.calls := fun h => by simpa using hfails h
            rw [evaluateAll_cons_of_ok hrecording, List.filter_cons_of_neg (by simpa using hcall)]
            exact ih (hbuffers.cons hplain) calls s₁
          · rw [evaluateAll_cons_of_ok hrecording,
              List.filter_cons_of_pos (by simpa using hasks.mem_calls)]
            obtain ⟨answer, s', new, asked, hrest, hrecorded, hfront, hnew, hall⟩ :=
              ih (hbuffers.cons hplain) (calls ++ [call]) s₁
            refine ⟨answer, s', call :: new, id :: asked, hrest, ?_, ?_, .cons hasks hnew, ?_⟩
            · rw [hrecorded, List.append_assoc]
              rfl
            · exact List.prefix_cons_inj id |>.2 hfront
            · exact fun buffers' h => congrArg (id :: ·) (hall buffers' h)

/-! ### One output -/

/-- What holds between the evaluation of an output and a backend. -/
structure KeepsContract (g : Graph) (backend : Backend σ) (feeds : Feeds) (output : NodeId)
    (s : σ) : Prop where
  /-- Keeping a record of the invocations does not change the answer. -/
  answer_eq : (g.evaluate backend.recording feeds output ([], s)).1 =
    (g.evaluate backend feeds output s).1
  /-- Nor does it change what becomes of the backend. -/
  state_eq : (g.evaluate backend.recording feeds output ([], s)).2.2 =
    (g.evaluate backend feeds output s).2
  /-- The invocations ask for the first calls of the evaluation order, each of them once. -/
  asks : ∃ asked, asked <+: g.callOrder output ∧ asked.Nodup ∧
    List.Forall₂ g.Asks asked (g.evaluate backend.recording feeds output ([], s)).2.1
  /-- If the output has values, they ask for all calls of the evaluation order, and the values are
  as many as the output's type has elements. -/
  completes : ∀ values, (g.evaluate backend feeds output s).1 = .ok values →
    List.Forall₂ g.Asks (g.callOrder output)
      (g.evaluate backend.recording feeds output ([], s)).2.1 ∧
    ∃ type, g.typeOf output = .tensor type ∧ type.shape.Holds values

/-- **The contract between an evaluation and a backend**, on any graph and for any backend. -/
theorem keepsContract (g : Graph) (backend : Backend σ) (feeds : Feeds) (output : NodeId) (s : σ) :
    g.KeepsContract backend feeds output s := by
  obtain ⟨answer, s', calls, asked, hplain, hrecording, hfront, hasks, hall⟩ :=
    evaluateAll_recording g.counted_nil backend feeds (g.order [output]) [] s
  rw [List.nil_append] at hrecording
  have hnodup : asked.Nodup := ((g.order_nodup [output]).filter _).sublist hfront.sublist
  cases answer with
  | error e =>
      have hevaluate := evaluate_of_error hplain
      have hrecorded := evaluate_of_error hrecording
      refine ⟨by rw [hrecorded, hevaluate], by rw [hrecorded, hevaluate],
        ⟨asked, hfront, hnodup, ?_⟩, fun values h => ?_⟩
      · rw [hrecorded]
        exact hasks
      · rw [hevaluate] at h
        exact absurd h (by simp)
  | ok buffers =>
      obtain ⟨values, hvalues⟩ := lookup_output hplain
      have hevaluate := evaluate_of_ok hplain hvalues
      have hrecorded := evaluate_of_ok hrecording hvalues
      obtain ⟨type, htype, hholds⟩ := g.counted_nil.evaluateAll hplain output values hvalues
      refine ⟨by rw [hrecorded, hevaluate], by rw [hrecorded, hevaluate],
        ⟨asked, hfront, hnodup, ?_⟩, fun found h => ?_⟩
      · rw [hrecorded]
        exact hasks
      · rw [hevaluate] at h
        cases h
        obtain rfl : asked = g.callOrder output := hall buffers rfl
        rw [hrecorded]
        exact ⟨hasks, type, htype, hholds⟩

/-- A call on the result of another one. -/
def stackedCalls : Graph where
  nodes := #[
    { op := .var "x", inputs := [], type := .tensor ⟨⟨[2]⟩, .float32⟩, payload? := none },
    { op := .multiThreshold ⟨"UINT1", .zero⟩, inputs := [0, 0],
      type := .tensor ⟨⟨[2]⟩, .float32⟩, payload? := none },
    { op := .multiThreshold ⟨"UINT1", .zero⟩, inputs := [1, 1],
      type := .tensor ⟨⟨[2]⟩, .float32⟩, payload? := none }]

/-- A backend that answers with too few values is not asked for the second call. -/
example :
    let backend : Backend Unit := .ofFunction fun _ => .ok []
    let feeds : Feeds := .ofList [(0, [.zero, .zero])]
    stackedCalls.callOrder 2 = [1, 2] ∧
      (stackedCalls.evaluate backend.recording feeds 2 ([], ())).2.1.length = 1 := by
  decide +kernel

end Graph

end Thresholding
