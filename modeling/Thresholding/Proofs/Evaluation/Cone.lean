import Thresholding.Evaluation.Kernel
import Thresholding.Proofs.Evaluation.Sequence
import Thresholding.Proofs.Failure
import Thresholding.Proofs.Graph.Adding

/-!
# Thresholding.Proofs.Evaluation.Cone

**What an evaluation depends on**: the cone of its output, which is all that is reached from
the output through inputs.

Two graphs are compared, each with feeds of its own. When they agree on the cone
(`SameCone`), they are evaluated in the same order, since a traversal looks at the inputs of
reached names only, and each name of the order has the same values or the same failure.
Nothing is assumed of the cone: it may hold cycles and names without a node. Nor is anything
assumed of the backend, so the one that keeps what it was asked is a case of it.

`OutsideCone` lists what a host may do to a graph and its feeds without touching the cone. One
step keeps `SameCone`, and so does any number of them.
-/

namespace Thresholding

/-- Two nodes that an evaluation treats alike: they have the same values if they are constants,
and otherwise no values are looked at. -/
structure Node.Alike (node node' : Node) : Prop where
  /-- They compute the same. -/
  op_eq : node'.op = node.op
  /-- From the same inputs. -/
  inputs_eq : node'.inputs = node.inputs
  /-- They are of the same type. -/
  type_eq : node'.type = node.type
  /-- Constants hold the same. -/
  payload_eq : node.op = .constant → node'.payload? = node.payload?

theorem Node.Alike.refl (node : Node) : node.Alike node := ⟨rfl, rfl, rfl, fun _ => rfl⟩

theorem Node.Alike.trans {node node' node'' : Node} (h : node.Alike node')
    (h' : node'.Alike node'') : node.Alike node'' where
  op_eq := h'.op_eq.trans h.op_eq
  inputs_eq := h'.inputs_eq.trans h.inputs_eq
  type_eq := h'.type_eq.trans h.type_eq
  payload_eq hop := (h'.payload_eq (h.op_eq.trans hop)).trans (h.payload_eq hop)

namespace Graph

variable {σ : Type} {g g' g'' : Graph} {feeds feeds' feeds'' : Feeds} {output id : NodeId}

/-- A name is that of a free input. -/
def IsFreeInput (g : Graph) (id : NodeId) : Prop :=
  ∃ node name, g.node? id = some node ∧ node.op = .var name

/-- Two graphs with their feeds agree on the cone that an output has in the first one. -/
structure SameCone (g : Graph) (feeds : Feeds) (g' : Graph) (feeds' : Feeds) (output : NodeId) :
    Prop where
  /-- Each name of the cone has a node in neither graph, or it has nodes that are treated alike. -/
  node : ∀ id, g.Reaches output id → Option.Rel Node.Alike (g.node? id) (g'.node? id)
  /-- The free inputs of the cone are fed the same. -/
  feed : ∀ id, g.Reaches output id → g.IsFreeInput id → feeds' id = feeds id

/-! ### One name of the cone -/

theorem SameCone.node_cases (h : g.SameCone feeds g' feeds' output) (hid : g.Reaches output id) :
    g.node? id = none ∧ g'.node? id = none ∨
      ∃ node node', g.node? id = some node ∧ g'.node? id = some node' ∧ node.Alike node' := by
  have hnode := h.node id hid
  generalize g.node? id = found at hnode ⊢
  generalize g'.node? id = found' at hnode ⊢
  cases hnode with
  | none => exact Or.inl ⟨rfl, rfl⟩
  | some halike => exact Or.inr ⟨_, _, rfl, rfl, halike⟩

theorem SameCone.inputs_eq (h : g.SameCone feeds g' feeds' output) (hid : g.Reaches output id) :
    g'.inputs id = g.inputs id := by
  rcases h.node_cases hid with ⟨hnone, hnone'⟩ | ⟨node, node', hnode, hnode', halike⟩
  · rw [inputs, inputs, hnone, hnone']
  · rw [Graph.inputs_eq hnode, Graph.inputs_eq hnode', halike.inputs_eq]

theorem SameCone.operand_eq (h : g.SameCone feeds g' feeds' output) (hid : g.Reaches output id)
    (buffers : Buffers) : g'.operand buffers id = g.operand buffers id := by
  unfold operand typedNode
  rcases h.node_cases hid with ⟨hnone, hnone'⟩ | ⟨node, node', hnode, hnode', halike⟩
  · rw [hnone, hnone']
  · rw [hnode, hnode']
    dsimp only
    rw [halike.type_eq]
    cases node.type <;> rfl

/-- The values of a node are those of a node that is treated alike. -/
theorem SameCone.nodeValues_eq (h : g.SameCone feeds g' feeds' output)
    (hid : g.Reaches output id) {node node' : Node} (hnode : g.node? id = some node)
    (halike : node.Alike node') (backend : Backend σ) (buffers : Buffers) (type : TensorType)
    (s : σ) :
    g'.nodeValues backend feeds' buffers id node' type s =
      g.nodeValues backend feeds buffers id node type s := by
  unfold nodeValues
  rw [halike.op_eq]
  cases hop : node.op with
  | var name => rw [h.feed id hid ⟨node, name, hnode, hop⟩]
  | constant => rw [halike.payload_eq hop]
  | multiThreshold attrs =>
      have hoperands : node'.inputs.mapM (g'.operand buffers) =
          node.inputs.mapM (g.operand buffers) := by
        rw [halike.inputs_eq]
        refine mapM_congr fun input hinput => h.operand_eq (hid.tail ?_) buffers
        show input ∈ g.inputs id
        rwa [Graph.inputs_eq hnode]
      rw [hoperands]

theorem SameCone.evaluateNode_eq (h : g.SameCone feeds g' feeds' output)
    (hid : g.Reaches output id) (backend : Backend σ) (buffers : Buffers) (s : σ) :
    g'.evaluateNode backend feeds' buffers id s = g.evaluateNode backend feeds buffers id s := by
  unfold evaluateNode typedNode
  rcases h.node_cases hid with ⟨hnone, hnone'⟩ | ⟨node, node', hnode, hnode', halike⟩
  · rw [hnone, hnone']
  · rw [hnode, hnode']
    dsimp only
    rw [halike.type_eq]
    cases node.type with
    | tensor type =>
        dsimp only
        rw [h.nodeValues_eq hid hnode halike]
    | tuple _ => rfl
    | incomplete => rfl

/-! ### The whole cone -/

theorem SameCone.evaluateAll_eq (h : g.SameCone feeds g' feeds' output) (backend : Backend σ)
    {ids : List NodeId} (hids : ∀ id ∈ ids, g.Reaches output id) (buffers : Buffers) (s : σ) :
    g'.evaluateAll backend feeds' ids buffers s = g.evaluateAll backend feeds ids buffers s := by
  induction ids generalizing buffers s with
  | nil => rfl
  | cons id ids ih =>
      obtain ⟨hid, hrest⟩ := List.forall_mem_cons.1 hids
      rw [evaluateAll, evaluateAll, h.evaluateNode_eq hid]
      rcases g.evaluateNode backend feeds buffers id s with ⟨e | values, s₁⟩
      · rfl
      · exact ih hrest _ _

theorem SameCone.order_eq (h : g.SameCone feeds g' feeds' output) :
    g'.order [output] = g.order [output] := by
  refine order_congr fun x hx id hid => h.inputs_eq ?_
  rwa [List.mem_singleton.1 hx] at hid

theorem SameCone.evaluate_eq (h : g.SameCone feeds g' feeds' output) (backend : Backend σ) (s : σ) :
    g'.evaluate backend feeds' output s = g.evaluate backend feeds output s := by
  unfold evaluate
  rw [h.order_eq, h.evaluateAll_eq backend fun _ => mem_order_singleton.1]

/-! ### Agreement on the cone -/

/-- Nodes that are the same are treated alike. -/
theorem rel_alike_of_eq (h : g'.node? id = g.node? id) :
    Option.Rel Node.Alike (g.node? id) (g'.node? id) := by
  rw [h]
  cases g.node? id with
  | none => exact .none
  | some node => exact .some (.refl node)

theorem SameCone.refl (g : Graph) (feeds : Feeds) (output : NodeId) :
    g.SameCone feeds g feeds output :=
  ⟨fun _ _ => rel_alike_of_eq rfl, fun _ _ _ => rfl⟩

/-- What is reached in one of the graphs is reached in the other one. -/
theorem SameCone.reaches (h : g.SameCone feeds g' feeds' output) (hid : g.Reaches output id) :
    g'.Reaches output id := by
  induction hid with
  | refl => exact .refl
  | @tail user input hreaches hinput ih =>
      have hinput' : input ∈ g'.inputs user := by
        rw [h.inputs_eq hreaches]
        exact hinput
      exact ih.tail hinput'

theorem SameCone.isFreeInput (h : g.SameCone feeds g' feeds' output) (hid : g.Reaches output id)
    (hfree : g.IsFreeInput id) : g'.IsFreeInput id := by
  obtain ⟨found, name, hfound, hop⟩ := hfree
  rcases h.node_cases hid with ⟨hnone, -⟩ | ⟨node, node', hnode, hnode', halike⟩
  · rw [hnone] at hfound
    exact absurd hfound (by simp)
  · cases hnode.symm.trans hfound
    exact ⟨node', name, hnode', halike.op_eq.trans hop⟩

theorem SameCone.trans (h : g.SameCone feeds g' feeds' output)
    (h' : g'.SameCone feeds' g'' feeds'' output) : g.SameCone feeds g'' feeds'' output := by
  refine ⟨fun id hid => ?_, fun id hid hfree => ?_⟩
  · have hnode := h.node id hid
    have hnode' := h'.node id (h.reaches hid)
    generalize g.node? id = found, g'.node? id = found', g''.node? id = found'' at hnode hnode' ⊢
    cases hnode with
    | none => exact hnode'
    | some halike =>
        cases hnode' with
        | some halike' => exact .some (halike.trans halike')
  · exact (h'.feed id (h.reaches hid) (h.isFreeInput hid hfree)).trans (h.feed id hid hfree)

/-! ### Outside the cone -/

/-- What a graph and its feeds may come to without the cone of an output being touched. -/
inductive OutsideCone (g : Graph) (feeds : Feeds) (output : NodeId) : Graph → Feeds → Prop
  /-- Nothing is done. -/
  | start : OutsideCone g feeds output g feeds
  /-- A node is added whose name is not in the cone. -/
  | add {g' : Graph} {feeds' : Feeds} (node : Node) : OutsideCone g feeds output g' feeds' →
      ¬ g.Reaches output g'.size → OutsideCone g feeds output (g'.add node).2 feeds'
  /-- A type is recorded for a name that is not in the cone. -/
  | setType {g' : Graph} {feeds' : Feeds} (id : NodeId) (type : ExprType) :
      OutsideCone g feeds output g' feeds' → ¬ g.Reaches output id →
      OutsideCone g feeds output (g'.setType id type).2 feeds'
  /-- Something is fed, or nothing more, to a name that is not in the cone or no free input. -/
  | feed {g' : Graph} {feeds' : Feeds} (id : NodeId) (values? : Option Buffer) :
      OutsideCone g feeds output g' feeds' → ¬ (g.Reaches output id ∧ g.IsFreeInput id) →
      OutsideCone g feeds output g' (Function.update feeds' id values?)

/-- **What is done outside the cone leaves the cone as it was.** -/
theorem OutsideCone.sameCone (h : g.OutsideCone feeds output g' feeds') :
    g.SameCone feeds g' feeds' output := by
  induction h with
  | start => exact .refl g feeds output
  | @add g' _ node _ hnew ih =>
      refine ⟨fun id hid => ?_, ih.feed⟩
      have hne : id ≠ g'.size := fun heq => hnew (heq ▸ hid)
      rw [node?_add_of_ne hne]
      exact ih.node id hid
  | setType id type _ houtside ih =>
      refine ⟨fun other hother => ?_, ih.feed⟩
      have hne : id ≠ other := fun heq => houtside (heq ▸ hother)
      rw [node?_setType, if_neg hne]
      exact ih.node other hother
  | feed id values? _ houtside ih =>
      refine ⟨ih.node, fun other hother hfree => ?_⟩
      have hne : other ≠ id := by
        rintro rfl
        exact houtside ⟨hother, hfree⟩
      rw [Function.update_of_ne hne]
      exact ih.feed other hother hfree

/-! ### Two evaluations -/

/-- Evaluating an output in two graphs cannot be told apart. -/
structure SameEvaluation (backend : Backend σ) (s : σ) (g : Graph) (feeds : Feeds) (g' : Graph)
    (feeds' : Feeds) (output : NodeId) : Prop where
  /-- The values or the failure are the same, and so is what becomes of the backend. -/
  answer_eq : g'.evaluate backend feeds' output s = g.evaluate backend feeds output s
  /-- The backend is asked the same, in the same order. -/
  invocations_eq : (g'.evaluate backend.recording feeds' output ([], s)).2.1 =
    (g.evaluate backend.recording feeds output ([], s)).2.1

theorem SameCone.sameEvaluation (h : g.SameCone feeds g' feeds' output) (backend : Backend σ)
    (s : σ) : SameEvaluation backend s g feeds g' feeds' output :=
  ⟨h.evaluate_eq backend s, congrArg (·.2.1) (h.evaluate_eq backend.recording ([], s))⟩

/-- **An evaluation depends on the cone of its output only.** In particular nothing matters that
is done outside the cone. -/
theorem evaluate_depends_on_cone (h : g.SameCone feeds g' feeds' output) (backend : Backend σ)
    (s : σ) :
    SameEvaluation backend s g feeds g' feeds' output ∧
    ∀ g'' feeds'', g'.OutsideCone feeds' output g'' feeds'' →
      SameEvaluation backend s g feeds g'' feeds'' output :=
  ⟨h.sameEvaluation backend s,
    fun _ _ houtside => (h.trans houtside.sameCone).sameEvaluation backend s⟩

/-- The cone of the call `2` beside a call that is an input of itself. -/
def besideCone : Graph where
  nodes := #[
    { op := .var "x", inputs := [], type := .tensor ⟨⟨[1, 1, 2]⟩, .float32⟩, payload? := none },
    { op := .constant, inputs := [], type := .tensor ⟨⟨[1, 3]⟩, .float32⟩,
      payload? := some ([1, 2, 3].map (.ofNat .binary32)) },
    { op := .multiThreshold ⟨"UINT2", .zero⟩, inputs := [0, 1],
      type := .tensor ⟨⟨[1, 1, 2]⟩, .float32⟩, payload? := none },
    { op := .multiThreshold ⟨"UINT2", .zero⟩, inputs := [3, 9], type := .incomplete,
      payload? := none }]

/-- The same cone beside another node. -/
def besideSameCone : Graph where
  nodes := besideCone.nodes.set! 3
    { op := .var "y", inputs := [], type := .tensor ⟨⟨[1]⟩, .float32⟩, payload? := none }

/-- Data `1, 5`. -/
def coneFeeds : Feeds := .ofList [(0, [1, 5].map (.ofNat .binary32))]

/-- The same data; the constant of the cone and the node beside it are fed, too. -/
def sameConeFeeds : Feeds :=
  .ofList [(0, [1, 5].map (.ofNat .binary32)), (1, []), (3, [.zero])]

theorem sameCone_besideCone : besideCone.SameCone coneFeeds besideSameCone sameConeFeeds 2 := by
  have hcone : ∀ id, besideCone.Reaches 2 id → id = 0 ∨ id = 1 ∨ id = 2 := by
    intro id hid
    have horder : besideCone.order [2] = [0, 1, 2] := by decide
    simpa [horder] using mem_order_singleton.2 hid
  refine ⟨fun id hid => rel_alike_of_eq ?_, fun id hid hfree => ?_⟩
  · rcases hcone id hid with rfl | rfl | rfl <;> rfl
  · obtain ⟨node, name, hnode, hop⟩ := hfree
    rcases hcone id hid with rfl | rfl | rfl
    · rfl
    · have hconstant : (besideCone.node? 1).map (·.op) = some .constant := rfl
      rw [hnode, Option.map_some, hop] at hconstant
      exact absurd hconstant (by simp)
    · rfl

theorem evaluate_depends_on_cone_besideCone :
    besideCone.SameCone coneFeeds besideSameCone sameConeFeeds 2 ∧
    SameEvaluation .reference () besideCone coneFeeds besideSameCone sameConeFeeds 2 ∧
    ∀ g'' feeds'', besideSameCone.OutsideCone sameConeFeeds 2 g'' feeds'' →
      SameEvaluation .reference () besideCone coneFeeds g'' feeds'' 2 :=
  ⟨sameCone_besideCone, evaluate_depends_on_cone sameCone_besideCone .reference ()⟩

/-- A name without a node is in its own cone, and it matters that a node is added there. -/
example :
    let node : Node :=
      { op := .var "y", inputs := [], type := .tensor ⟨⟨[1]⟩, .float32⟩, payload? := none }
    let feeds : Feeds := .ofList [(4, [.zero])]
    (besideCone.evaluate .reference feeds 4 ()).1.isOk = false ∧
      ((besideCone.add node).2.evaluate .reference feeds 4 ()).1.isOk = true := by
  decide +kernel

end Graph

end Thresholding
