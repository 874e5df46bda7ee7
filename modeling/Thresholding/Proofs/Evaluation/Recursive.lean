import Thresholding.Evaluation.Kernel
import Thresholding.Proofs.Evaluation.Sequence
import Thresholding.Proofs.Failure
import Thresholding.Proofs.Tensor.ElementCount

/-!
# Thresholding.Proofs.Evaluation.Recursive

**Evaluation without an order or buffers**, and that evaluating in order comes to the same.

`recursiveOperand` evaluates a name after its inputs by calling itself on each of them, as
often as they are used. It is given a name from which no cycle is reached, so that less and
less is reached from the names it calls itself on.

`evaluateAll` keeps up with it (`Traverses.evaluateAll`): when a traversal has listed names,
either their values are at hand and they are those of the recursion, or the first failure was
that of the recursion.
-/

namespace Thresholding

namespace Graph

variable {g : Graph} {f : Invocation → Except EvalError Buffer} {feeds : Feeds}

/-! ### The recursion -/

/-- The values of a node of a given type: what is fed to it, what it holds, or what the
function answers on its operands. -/
def ownValues (f : Invocation → Except EvalError Buffer) (feeds : Feeds) (id : NodeId) (node : Node)
    (type : TensorType) (operands : List Operand) : Except EvalError Buffer :=
  match node.op with
  | .var _ =>
    match feeds id with
    | some values => .ok values
    | none => .error (.missingFeed id)
  | .constant =>
    match node.payload? with
    | some values => .ok values
    | none => .error (.missingFeed id)
  | .multiThreshold _ => f { op := node.op, operands, result := type }

/-- Values as an operand of a given type, if they are as many as it has elements. -/
def counted (id : NodeId) (type : TensorType) (values : Buffer) : Except EvalError Operand :=
  match type.shape.elementCount? with
  | none => .error (.elementCountOverflow id type.shape)
  | some n =>
    if (values.length : Int) = n.toInt then
      .ok { values, shape := type.shape, elementType := type.elementType }
    else .error (.shapeMismatch type.shape.extents [values.length])

/-- A name as an operand, when its inputs are known. -/
def nodeOperand (g : Graph) (f : Invocation → Except EvalError Buffer) (feeds : Feeds) (id : NodeId)
    (operands : List Operand) : Except EvalError Operand :=
  match g.node? id with
  | none => .error (.unknownNode id)
  | some node =>
    match node.type with
    | .tensor type => ownValues f feeds id node type operands >>= counted id type
    | _ => .error (.untyped id)

/-- Evaluate a name from which no cycle is reached: first its inputs from left to right, then
the name itself. -/
def recursiveOperand (g : Graph) (f : Invocation → Except EvalError Buffer) (feeds : Feeds)
    (id : NodeId) (h : g.AcyclicFrom id) : Except EvalError Operand := do
  let operands ← (g.inputs id).attach.mapM fun input =>
    recursiveOperand g f feeds input.1 (h.input input.2)
  g.nodeOperand f feeds id operands
termination_by {x | g.Reaches id x}.ncard
decreasing_by exact h.ncard_reaches_lt input.2

/-- The values of an output by recursion. -/
def recursive (g : Graph) (f : Invocation → Except EvalError Buffer) (feeds : Feeds)
    (output : NodeId) (h : g.AcyclicFrom output) : Except EvalError Buffer := do
  let operand ← g.recursiveOperand f feeds output h
  return operand.values

open Classical in
/-- The recursion without a proof about its name; from a name that reaches a cycle it makes
nothing. -/
noncomputable def madeOperand (g : Graph) (f : Invocation → Except EvalError Buffer) (feeds : Feeds)
    (id : NodeId) : Except EvalError Operand :=
  if h : g.AcyclicFrom id then g.recursiveOperand f feeds id h else .error (.unknownNode id)

theorem AcyclicFrom.madeOperand_eq_recursiveOperand {id : NodeId} (h : g.AcyclicFrom id) :
    g.madeOperand f feeds id = g.recursiveOperand f feeds id h := dif_pos h

theorem AcyclicFrom.madeOperand_eq {id : NodeId} (h : g.AcyclicFrom id) :
    g.madeOperand f feeds id =
      (g.inputs id).mapM (g.madeOperand f feeds) >>= g.nodeOperand f feeds id := by
  rw [h.madeOperand_eq_recursiveOperand, recursiveOperand]
  have hinputs : (g.inputs id).attach.mapM
      (fun input => g.recursiveOperand f feeds input.1 (h.input input.2)) =
        (g.inputs id).mapM (g.madeOperand f feeds) := by
    rw [List.mapM_subtype (g := g.madeOperand f feeds), List.unattach_attach]
    exact fun input hinput => ((h.input hinput).madeOperand_eq_recursiveOperand).symm
  rw [hinputs]

theorem AcyclicFrom.madeOperand_of_ok {id : NodeId} {operands : List Operand}
    (hacyclic : g.AcyclicFrom id)
    (h : (g.inputs id).mapM (g.madeOperand f feeds) = .ok operands) :
    g.madeOperand f feeds id = g.nodeOperand f feeds id operands := by
  rw [hacyclic.madeOperand_eq, h]
  rfl

theorem AcyclicFrom.madeOperand_of_error {id : NodeId} {e : EvalError}
    (hacyclic : g.AcyclicFrom id)
    (h : (g.inputs id).mapM (g.madeOperand f feeds) = .error e) :
    g.madeOperand f feeds id = .error e := by
  rw [hacyclic.madeOperand_eq, h]
  rfl

theorem counted_eq_ok_iff {id : NodeId} {type : TensorType} {values : Buffer} {o : Operand} :
    counted id type values = .ok o ↔ type.shape.Holds values ∧
      o = { values, shape := type.shape, elementType := type.elementType } := by
  unfold counted Shape.Holds
  cases type.shape.elementCount? with
  | none => simp
  | some n =>
      dsimp only
      split
      · next h => simp [h, eq_comm]
      · next h => simp [h]

/-- What has gone well when a node was made an operand. -/
theorem nodeOperand_eq_ok_iff {id : NodeId} {operands : List Operand} {o : Operand} :
    g.nodeOperand f feeds id operands = .ok o ↔ ∃ node type values, g.node? id = some node ∧
      node.type = .tensor type ∧ ownValues f feeds id node type operands = .ok values ∧
      type.shape.Holds values ∧
      o = { values, shape := type.shape, elementType := type.elementType } := by
  unfold nodeOperand
  cases g.node? id with
  | none => simp
  | some node =>
      dsimp only
      cases htype : node.type with
      | tensor type => simp [htype, bind_eq_ok_iff, counted_eq_ok_iff]
      | tuple _ => simp [htype]
      | incomplete => simp [htype]

/-- The recursion succeeds with an operand exactly if it does so on the inputs and the node. -/
theorem AcyclicFrom.madeOperand_eq_ok_iff {id : NodeId} (h : g.AcyclicFrom id) {o : Operand} :
    g.madeOperand f feeds id = .ok o ↔ ∃ operands,
      List.Forall₂ (fun input p => g.madeOperand f feeds input = .ok p) (g.inputs id) operands ∧
        g.nodeOperand f feeds id operands = .ok o := by
  rw [h.madeOperand_eq, bind_eq_ok_iff]
  simp only [mapM_eq_ok_iff]

theorem acyclicFrom_of_madeOperand {id : NodeId} {o : Operand}
    (h : g.madeOperand f feeds id = .ok o) : g.AcyclicFrom id := by
  by_contra hcyclic
  rw [madeOperand, dif_neg hcyclic] at h
  exact absurd h (by simp)

/-- What the recursion makes of a name is of the type that is recorded for it. -/
theorem ofType_of_madeOperand {id : NodeId} {o : Operand}
    (h : g.madeOperand f feeds id = .ok o) {type : TensorType}
    (htype : g.typeOf id = .tensor type) : o.OfType type := by
  obtain ⟨_, -, hoperand⟩ := (acyclicFrom_of_madeOperand h).madeOperand_eq_ok_iff.1 h
  obtain ⟨node, found, values, hnode, hfound, -, hholds, rfl⟩ := nodeOperand_eq_ok_iff.1 hoperand
  rw [typeOf_eq hnode] at htype
  cases hfound.symm.trans htype
  exact ⟨rfl, rfl, hholds⟩

/-! ### One node -/

theorem checkLength_eq (id : NodeId) (type : TensorType) (values : Buffer) :
    checkLength id type values = (counted id type values).map Operand.values := by
  unfold checkLength counted
  cases type.shape.elementCount? with
  | none => rfl
  | some n =>
      dsimp only
      split <;> rfl

theorem nodeValues_eq {σ : Type} {buffers : Buffers} {node : Node} {operands : List Operand}
    (h : node.inputs.mapM (g.operand buffers) = .ok operands) (id : NodeId) (type : TensorType)
    (s : σ) : g.nodeValues (.ofFunction f) feeds buffers id node type s =
      (ownValues f feeds id node type operands, s) := by
  unfold nodeValues ownValues
  cases node.op with
  | var name => cases feeds id <;> rfl
  | constant => cases node.payload? <;> rfl
  | multiThreshold attrs =>
      rw [h]
      rfl

/-- With its operands at hand, a node evaluates as in the recursion. -/
theorem evaluateNode_eq {σ : Type} {buffers : Buffers} {id : NodeId} {operands : List Operand}
    (h : (g.inputs id).mapM (g.operand buffers) = .ok operands)
    (f : Invocation → Except EvalError Buffer) (feeds : Feeds) (s : σ) :
    g.evaluateNode (.ofFunction f) feeds buffers id s =
      ((g.nodeOperand f feeds id operands).map Operand.values, s) := by
  unfold evaluateNode typedNode nodeOperand
  cases hnode : g.node? id with
  | none => rfl
  | some node =>
      rw [inputs, hnode] at h
      dsimp only at h ⊢
      cases node.type with
      | tensor type =>
          dsimp only
          rw [nodeValues_eq h]
          cases ownValues f feeds id node type operands with
          | error e => rfl
          | ok values => exact congrArg (·, s) (checkLength_eq id type values)
      | tuple _ => rfl
      | incomplete => rfl

/-- Once its values are at hand, a node is the operand that the recursion makes of it. -/
theorem operand_eq_of_nodeOperand {buffers : Buffers} {id : NodeId} {operands : List Operand}
    {o : Operand} (h : g.nodeOperand f feeds id operands = .ok o)
    (hlookup : buffers.lookup id = some o.values) : g.operand buffers id = .ok o := by
  obtain ⟨node, type, values, hnode, htype, -, -, rfl⟩ := nodeOperand_eq_ok_iff.1 h
  simp only [operand, hlookup, typedNode, hnode, htype]

/-! ### Names whose values are at hand -/

/-- The values of a name are at hand, and they are those of the recursion. -/
def Ready (g : Graph) (f : Invocation → Except EvalError Buffer) (feeds : Feeds) (buffers : Buffers)
    (id : NodeId) : Prop :=
  ∃ o, g.madeOperand f feeds id = .ok o ∧ g.operand buffers id = .ok o

theorem mapM_of_ready {buffers : Buffers} {ids : List NodeId}
    (h : ∀ id ∈ ids, g.Ready f feeds buffers id) :
    ∃ operands, ids.mapM (g.madeOperand f feeds) = .ok operands ∧
      ids.mapM (g.operand buffers) = .ok operands := by
  induction ids with
  | nil => exact ⟨[], rfl, rfl⟩
  | cons id ids ih =>
      obtain ⟨o, hmade, hoperand⟩ := h id List.mem_cons_self
      obtain ⟨os, hmades, hoperands⟩ := ih fun id hid => h id (List.mem_cons_of_mem _ hid)
      refine ⟨o :: os, ?_, ?_⟩
      · rw [List.mapM_cons, hmade, hmades]
        rfl
      · rw [List.mapM_cons, hoperand, hoperands]
        rfl

/-- When a node is evaluated, its values are at hand and what was at hand still is. -/
theorem Ready.cons {buffers : Buffers} {id : NodeId} {o : Operand} {operands : List Operand}
    (hmade : g.madeOperand f feeds id = .ok o)
    (hnode : g.nodeOperand f feeds id operands = .ok o) {x : NodeId}
    (hx : x = id ∨ g.Ready f feeds buffers x) : g.Ready f feeds ((id, o.values) :: buffers) x := by
  by_cases heq : x = id
  · subst heq
    exact ⟨o, hmade, operand_eq_of_nodeOperand hnode List.lookup_cons_self⟩
  · obtain ⟨p, hp, hoperand⟩ := hx.resolve_left heq
    refine ⟨p, hp, ?_⟩
    unfold operand at hoperand ⊢
    rwa [List.lookup_cons, beq_false_of_ne heq]

/-- **One node** with its inputs' values at hand: it is evaluated and is at hand then, or it
fails like the recursion. -/
theorem AcyclicFrom.evaluateNode {σ : Type} {id : NodeId} (hacyclic : g.AcyclicFrom id)
    {buffers : Buffers} (hinputs : ∀ input ∈ g.inputs id, g.Ready f feeds buffers input) (s : σ) :
    (∃ o, g.evaluateNode (.ofFunction f) feeds buffers id s = (.ok o.values, s) ∧
      g.madeOperand f feeds id = .ok o ∧
      ∀ x, x = id ∨ g.Ready f feeds buffers x → g.Ready f feeds ((id, o.values) :: buffers) x) ∨
    (∃ e, g.evaluateNode (.ofFunction f) feeds buffers id s = (.error e, s) ∧
      g.madeOperand f feeds id = .error e) := by
  obtain ⟨operands, hmades, hoperands⟩ := mapM_of_ready hinputs
  have hmade := hacyclic.madeOperand_of_ok hmades
  have hnode := evaluateNode_eq hoperands f feeds s
  cases hresult : g.nodeOperand f feeds id operands with
  | error e =>
      rw [hresult] at hmade hnode
      exact Or.inr ⟨e, hnode, hmade⟩
  | ok o =>
      rw [hresult] at hmade hnode
      exact Or.inl ⟨o, hnode, hmade, fun x hx => Ready.cons hmade hresult hx⟩

/-! ### A whole traversal -/

theorem mapM_cons_of_error {id : NodeId} {ids : List NodeId} {e : EvalError}
    (h : g.madeOperand f feeds id = .error e) :
    (id :: ids).mapM (g.madeOperand f feeds) = .error e := by
  rw [List.mapM_cons, h]
  rfl

theorem mapM_cons_of_ok {id : NodeId} {ids : List NodeId} {o : Operand} {e : EvalError}
    (h : g.madeOperand f feeds id = .ok o)
    (hrest : ids.mapM (g.madeOperand f feeds) = .error e) :
    (id :: ids).mapM (g.madeOperand f feeds) = .error e := by
  rw [List.mapM_cons, h, hrest]
  rfl

/-- **Evaluating what a traversal lists** keeps up with the recursion on what it visits.

The names in `done` are those whose values are at hand. A name that is marked and not done is
one that is being visited; without cycles none of them is met again. -/
theorem Traverses.evaluateAll {σ : Type} {ids marked listed marked' : List NodeId}
    (h : Traverses g ids marked listed marked') (hacyclic : ∀ id ∈ ids, g.AcyclicFrom id)
    {done : List NodeId} (hdone : ∀ id ∈ ids, ∀ x, g.Reaches id x → x ∈ marked → x ∈ done)
    {buffers : Buffers} (hready : ∀ x ∈ done, g.Ready f feeds buffers x) (s : σ) :
    (∃ buffers', g.evaluateAll (.ofFunction f) feeds listed buffers s = (.ok buffers', s) ∧
      ∀ x, x ∈ done ∨ x ∈ listed → g.Ready f feeds buffers' x) ∨
    (∃ e, g.evaluateAll (.ofFunction f) feeds listed buffers s = (.error e, s) ∧
      ids.mapM (g.madeOperand f feeds) = .error e) := by
  induction h generalizing done buffers with
  | nil =>
      exact Or.inl ⟨buffers, rfl, fun x hx => hready x (hx.resolve_right List.not_mem_nil)⟩
  | @seen id ids _ _ _ hid _ ih =>
      obtain ⟨o, hmade, -⟩ := hready id (hdone id List.mem_cons_self id .refl hid)
      rcases ih (fun x hx => hacyclic x (List.mem_cons_of_mem _ hx))
        (fun x hx => hdone x (List.mem_cons_of_mem _ hx)) hready with hok | ⟨e, hrun, herror⟩
      · exact Or.inl hok
      · exact Or.inr ⟨e, hrun, mapM_cons_of_ok hmade herror⟩
  | @fresh id ids marked inner marked₁ rest _ _ hinner _ ihinner ihrest =>
      have hcycle := hacyclic id List.mem_cons_self
      -- what an input leads to is not the name itself, so what is marked of it is done
      have hbelow : ∀ input ∈ g.inputs id, ∀ x, g.Reaches input x → x ∈ id :: marked → x ∈ done := by
        intro input hinput x hreaches hx
        rcases List.mem_cons.1 hx with rfl | hx
        · exact absurd (Relation.TransGen.head' hinput hreaches) (hcycle x .refl)
        · exact hdone id List.mem_cons_self x (hreaches.head hinput) hx
      rcases ihinner (fun input hinput x hx => hcycle x (hx.head hinput)) hbelow hready
        with ⟨buffers₁, hrun, hready₁⟩ | ⟨e, hrun, herror⟩
      · have hinputs : ∀ input ∈ g.inputs id, g.Ready f feeds buffers₁ input := fun input hinput =>
          hready₁ input ((hinner.mem_marked_iff.1 (hinner.ids_subset hinput)).imp_left
            (hbelow input hinput input .refl))
        rcases hcycle.evaluateNode hinputs s with ⟨o, hnode, hmade, hcons⟩ | ⟨e, hnode, hmade⟩
        · have hready₂ : ∀ x ∈ done ++ inner ++ [id],
              g.Ready f feeds ((id, o.values) :: buffers₁) x := by
            intro x hx
            refine hcons x ?_
            rcases List.mem_append.1 hx with hx | hx
            · exact Or.inr (hready₁ x (List.mem_append.1 hx))
            · exact Or.inl (List.mem_singleton.1 hx)
          have hdone₂ : ∀ y ∈ ids, ∀ x, g.Reaches y x → x ∈ marked₁ → x ∈ done ++ inner ++ [id] := by
            intro y hy x hreaches hx
            rcases hinner.mem_marked_iff.1 hx with hx | hx
            · rcases List.mem_cons.1 hx with rfl | hx
              · simp
              · simp [hdone y (List.mem_cons_of_mem _ hy) x hreaches hx]
            · simp [hx]
          rw [evaluateAll_append_of_ok hrun, evaluateAll_cons_of_ok hnode]
          rcases ihrest (fun y hy => hacyclic y (List.mem_cons_of_mem _ hy)) hdone₂ hready₂
            with ⟨buffers', hrun', hready'⟩ | ⟨e, hrun', herror⟩
          · refine Or.inl ⟨buffers', hrun', fun x hx => hready' x ?_⟩
            simp only [List.mem_append, List.mem_cons, List.not_mem_nil, or_false] at hx ⊢
            grind
          · exact Or.inr ⟨e, hrun', mapM_cons_of_ok hmade herror⟩
        · refine Or.inr ⟨e, ?_, mapM_cons_of_error hmade⟩
          rw [evaluateAll_append_of_ok hrun, evaluateAll_cons_of_error hnode]
      · exact Or.inr ⟨e, evaluateAll_append_of_error hrun,
          mapM_cons_of_error (hcycle.madeOperand_of_error herror)⟩

theorem AcyclicFrom.recursive_eq {output : NodeId} (h : g.AcyclicFrom output) :
    g.recursive f feeds output h = (g.madeOperand f feeds output).map Operand.values := by
  rw [recursive, h.madeOperand_eq_recursiveOperand]
  cases g.recursiveOperand f feeds output h <;> rfl

theorem mapM_singleton (id : NodeId) :
    [id].mapM (g.madeOperand f feeds) = (g.madeOperand f feeds id).map fun o => [o] := by
  rw [List.mapM_cons, List.mapM_nil]
  cases g.madeOperand f feeds id <;> rfl

/-- Without cycles, evaluating in order comes to what the recursion makes. -/
theorem AcyclicFrom.evaluate_eq {σ : Type} {output : NodeId} (hacyclic : g.AcyclicFrom output)
    (f : Invocation → Except EvalError Buffer) (feeds : Feeds) (s : σ) :
    (g.evaluate (.ofFunction f) feeds output s).1 =
      (g.madeOperand f feeds output).map Operand.values := by
  obtain ⟨marked', htraverses⟩ := g.traverses_order [output]
  have hready : ∀ x ∈ ([] : List NodeId), g.Ready f feeds [] x := by simp
  rcases htraverses.evaluateAll (fun id hid => List.mem_singleton.1 hid ▸ hacyclic)
    (fun _ _ x _ hx => hx) hready s with ⟨buffers, hrun, hready⟩ | ⟨e, hrun, herror⟩
  · obtain ⟨o, hmade, hoperand⟩ :=
      hready output (Or.inr (g.subset_order [output] List.mem_cons_self))
    rw [evaluate_of_ok hrun (lookup_of_operand hoperand), hmade]
    rfl
  · rw [evaluate_of_error hrun]
    rw [mapM_singleton] at herror
    cases hmade : g.madeOperand f feeds output with
    | error e' =>
        rw [hmade] at herror
        cases herror
        rfl
    | ok o =>
        rw [hmade] at herror
        exact absurd herror (by simp [Except.map])

/-- **Evaluating in order is evaluating by recursion.** On an output from which no cycle is
reached, both come to the same values or the same failure; and for any backend, the output has
values when its order has been evaluated, so that it is never missing then. -/
theorem evaluate_eq_recursive {σ : Type} {output : NodeId} (hacyclic : g.AcyclicFrom output)
    (f : Invocation → Except EvalError Buffer) (feeds : Feeds) (s : σ) :
    (g.evaluate (.ofFunction f) feeds output s).1 = g.recursive f feeds output hacyclic ∧
    ∀ (backend : Backend σ) (buffers : Buffers) (s' : σ),
      g.evaluateAll backend feeds (g.order [output]) [] s = (.ok buffers, s') →
        ∃ values, buffers.lookup output = some values :=
  ⟨(hacyclic.evaluate_eq f feeds s).trans hacyclic.recursive_eq.symm,
    fun _ _ _ h => lookup_output h⟩

/-- A call on the result of another, with the same table of thresholds for both. -/
def sharedTable : Graph where
  nodes := #[
    { op := .var "x", inputs := [], type := .tensor ⟨⟨[1, 2, 1]⟩, .float32⟩, payload? := none },
    { op := .var "t", inputs := [], type := .tensor ⟨⟨[2, 3]⟩, .float32⟩, payload? := none },
    { op := .multiThreshold ⟨"UINT2", .zero⟩, inputs := [0, 1],
      type := .tensor ⟨⟨[1, 2, 1]⟩, .float32⟩, payload? := none },
    { op := .multiThreshold ⟨"UINT2", .zero⟩, inputs := [2, 1],
      type := .tensor ⟨⟨[1, 2, 1]⟩, .float32⟩, payload? := none }]

/-- Data `1, 5` and the rows `1, 2, 3` and `4, 5, 6`. -/
def sharedFeeds : Feeds :=
  .ofList [(0, [1, 5].map (.ofNat .binary32)), (1, [1, 2, 3, 4, 5, 6].map (.ofNat .binary32))]

theorem acyclicFrom_sharedTable (output : NodeId) : sharedTable.AcyclicFrom output := by
  have hfirst : sharedTable.InputsFirst := by decide
  exact hfirst.acyclicFrom output

theorem evaluate_eq_recursive_sharedTable :
    (sharedTable.evaluate (.ofFunction Kernel.answer) sharedFeeds 3 ()).1 =
      sharedTable.recursive Kernel.answer sharedFeeds 3 (acyclicFrom_sharedTable 3) ∧
    ∀ (backend : Backend Unit) (buffers : Buffers) (s' : Unit),
      sharedTable.evaluateAll backend sharedFeeds (sharedTable.order [3]) [] () =
        (.ok buffers, s') → ∃ values, buffers.lookup 3 = some values :=
  evaluate_eq_recursive (acyclicFrom_sharedTable 3) Kernel.answer sharedFeeds ()

/-- The first call counts to `1, 2`, the second one to `1, 0`. -/
example : (sharedTable.evaluate .reference sharedFeeds 3 ()).1.toOption =
    some ([1, 0].map (.ofNat .binary32)) := by decide +kernel

end Graph

end Thresholding
