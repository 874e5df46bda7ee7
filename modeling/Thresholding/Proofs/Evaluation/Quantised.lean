import Thresholding.Proofs.Binary.Exactness
import Thresholding.Proofs.Domain.Range
import Thresholding.Proofs.Evaluation.Progress

/-!
# Thresholding.Proofs.Evaluation.Quantised

**Where evaluation lands**: the values of a typed call are the integers that its domain has for
the counts of thresholds, and nothing is lost to rounding.

The typing rule makes a row of thresholds as long as the domain has levels and makes the bias its
least integer. So the counts are those up to the number of levels, and all of them but the last
one land in the domain (`Kernel.lands`). An element that crosses every threshold of its row lands
just beyond the domain.

The operands of a call are what was at hand when it was evaluated (`Graph.EvaluatedOn`). Inputs
may have any names, so there may be a cycle through inputs that are listed on a source. Without
one, the operands are what their names are evaluated to (`Graph.EvaluatedOn.evaluate_eq`).
-/

namespace Thresholding

namespace Kernel

variable {d : IntDomain} {bias : Double} {data thresholds : Operand} {values row : Buffer}

/-- **A count plus the bias is not rounded**, up to the width of a significand. -/
theorem isInt_biased {k : Nat} (hwidth : d.bitWidth ≤ 24) (hbias : bias.IsInt d.least)
    (hk : k ≤ d.levels) : (biased k bias).IsInt (k + d.least) := by
  have hlevels : d.levels ≤ 2 ^ (24 : Nat) := Nat.pow_le_pow_right Nat.two_pos hwidth
  have hdouble : 2 ^ (24 : Nat) ≤ 2 ^ Format.binary64.precision := by decide
  have hmoved : (k + d.least).natAbs ≤ 2 ^ (24 : Nat) :=
    Nat.le_trans (IntDomain.natAbs_add_least_le hk) hlevels
  have hcount : (Binary.ofNat .binary64 k).IsInt k :=
    Binary.isInt_ofNat (Format.representable_mul_scale (by omega))
  have hsum : (Binary.ofNat .binary64 k + bias).IsInt (k + d.least) :=
    hcount.add hbias (Nat.le_trans hmoved hdouble)
  exact hsum.convert hmoved

/-- Where an element lands that is compared with a row of thresholds. -/
structure Lands (d : IntDomain) (x : Single) (row : Buffer) (y : Single) : Prop where
  /-- On the integer that is the count, moved by the bias. -/
  isInt : y.IsInt (count x row + d.least)
  /-- There are as many thresholds as levels. -/
  count_le : count x row ≤ d.levels
  /-- Only the last count is moved out of the domain. -/
  outside_iff : (∀ n, d.Holds n → ¬ y.IsInt n) ↔ count x row = d.levels
  /-- This is the count of an element that crosses every threshold. -/
  crossesAll_iff : count x row = d.levels ↔ ∀ t ∈ row, t.le x = true

/-- **An element lands where its count says**, if its row has a threshold for each level. -/
theorem lands {x : Single} (hwidth : d.bitWidth ≤ 24) (hbias : bias.IsInt d.least)
    (hrow : row.length = d.levels) : Lands d x row (biased (count x row) bias) := by
  have hcount : count x row ≤ d.levels := hrow ▸ List.countP_le_length
  have hint : (biased (count x row) bias).IsInt (count x row + d.least) :=
    isInt_biased hwidth hbias hcount
  constructor
  case isInt => exact hint
  case count_le => exact hcount
  case outside_iff =>
    have hinside : (∀ n, d.Holds n → ¬ (biased (count x row) bias).IsInt n) ↔
        ¬ d.Holds (count x row + d.least) := by
      constructor
      · intro h hholds
        exact h _ hholds hint
      · intro h n hn hisInt
        exact h (hisInt.unique hint ▸ hn)
    rw [hinside, IntDomain.holds_add_least_iff]
    omega
  case crossesAll_iff =>
    rw [← hrow, count, List.countP_eq_length]

/-- The answer of the kernel is that of a domain: element by element, the values are where the
elements of the data land. -/
structure Quantises (d : IntDomain) (data thresholds : Operand) (values : Buffer) : Prop where
  /-- There is a value for each element. -/
  length_eq : values.length = data.values.length
  /-- An element is compared with the row of its channel, which has a threshold for each level. -/
  lands : ∃ t run, table thresholds = .ok t ∧ t.steps = d.levels ∧
    channelRun t.rows data.shape = .ok run ∧
    ∀ i x y, data.values[i]? = some x → values[i]? = some y →
      Lands d x (t.row (channelAt t.rows run i)) y

/-- The kernel quantises when the rule for the thresholds and the bias was kept. -/
theorem quantises_of_multiThreshold (hwidth : d.bitWidth ≤ 24) (hbias : bias.IsInt d.least)
    (hlevels : ∃ last, thresholds.shape.dims.getLast? = some last ∧
      last.toInt = (2 ^ d.bitWidth : Nat))
    (h : multiThreshold data thresholds bias = .ok values) : Quantises d data thresholds values := by
  obtain ⟨t, run, htable, hrun, hvalues⟩ := multiThreshold_inv h
  obtain ⟨channels, steps, hdims, -, -, hsteps⟩ := exists_dims_of_table htable
  obtain ⟨last, hlast, hwide⟩ := hlevels
  have hlevels : t.steps = d.levels := by
    have heq : steps = last := by simpa [hdims] using hlast
    rw [heq, hwide] at hsteps
    exact Int.natCast_inj.1 hsteps
  refine ⟨length_of_multiThreshold h, t, run, htable, hlevels, hrun, ?_⟩
  intro i x y hx hy
  have hrow : (t.row (channelAt t.rows run i)).length = d.levels :=
    (t.length_row (channelAt_lt t.rows_pos run i)).trans hlevels
  rw [hvalues, List.getElem?_mapIdx, hx, Option.map_some, Option.some.injEq] at hy
  exact hy ▸ Kernel.lands hwidth hbias hrow

end Kernel

namespace Graph

variable {σ : Type} {registry : Registry} {config : Config} {g : Graph} {feeds : Feeds} {id : NodeId}
  {s : σ} {operands : List Operand} {values : Buffer}

/-- The operands that a name is evaluated on: its inputs as they are at hand when the names before
it have been evaluated. -/
def EvaluatedOn (g : Graph) (feeds : Feeds) (id : NodeId) (s : σ) (operands : List Operand) : Prop :=
  ∃ others buffers s', g.order [id] = others ++ [id] ∧
    g.evaluateAll .reference feeds others [] s = (.ok buffers, s') ∧
    (g.inputs id).mapM (g.operand buffers) = .ok operands

/-- Without cycles, evaluating what comes before a name leaves its inputs at hand, with the values
that the recursion makes. -/
theorem AcyclicFrom.ready_inputs {f : Invocation → Except EvalError Buffer}
    {others marked' : List NodeId} {buffers : Buffers} {s' : σ} (hacyclic : g.AcyclicFrom id)
    (h : Traverses g (g.inputs id) [id] others marked')
    (hrun : g.evaluateAll (.ofFunction f) feeds others [] s = (.ok buffers, s')) :
    ∀ input ∈ g.inputs id, g.Ready f feeds buffers input := by
  have hinputs : ∀ input ∈ g.inputs id, g.AcyclicFrom input := fun input hinput =>
    hacyclic.input hinput
  -- no input leads back to the name itself
  have hdone : ∀ input ∈ g.inputs id, ∀ x, g.Reaches input x → x ∈ [id] → x ∈ [] := by
    intro input hinput x hreaches hx
    rw [List.mem_singleton.1 hx] at hreaches
    exact absurd (Relation.TransGen.head' hinput hreaches) (hacyclic id .refl)
  have hready : ∀ x ∈ [], g.Ready f feeds [] x := by simp
  rcases h.evaluateAll hinputs hdone hready s with ⟨buffers', hrun', hready'⟩ | ⟨e, hrun', -⟩
  · cases hrun.symm.trans hrun'
    intro input hinput
    have hmarked := h.mem_marked_iff.1 (h.ids_subset hinput)
    refine hready' input (Or.inr (hmarked.resolve_left fun hself => ?_))
    exact absurd (hdone input hinput input .refl hself) List.not_mem_nil
  · cases hrun.symm.trans hrun'

/-- Without cycles, a name is evaluated on what its inputs are evaluated to. -/
theorem EvaluatedOn.evaluate_eq (h : g.EvaluatedOn feeds id s operands)
    (hacyclic : g.AcyclicFrom id) :
    List.Forall₂ (fun input o => (g.evaluate .reference feeds input s).1 = .ok o.values)
      (g.inputs id) operands := by
  obtain ⟨others, buffers, s', horder, hrun, hoperands⟩ := h
  obtain ⟨inner, horder', -, marked', htraverses⟩ := g.exists_order_eq id
  cases List.append_cancel_right (horder.symm.trans horder')
  have hready := hacyclic.ready_inputs htraverses hrun
  have hall := (List.forall₂_and_left (g.inputs id) operands).2
    ⟨fun input hinput => And.intro (hacyclic.input hinput) (hready input hinput),
      mapM_eq_ok_iff.1 hoperands⟩
  refine hall.imp ?_
  intro input o h
  obtain ⟨⟨hinput, p, hmade, hoperand⟩, ho⟩ := h
  cases hoperand.symm.trans ho
  rw [Backend.reference, hinput.evaluate_eq, hmade]
  rfl

/-- **A typed call lands in its domain**, except for the elements that cross every threshold.

The graph has been typed by one pass, and it may have inputs of any names. That the pass has found
a type for the call follows, because a call without a type is not evaluated. -/
theorem quantises_of_evaluate (hregistry : registry.BuiltFrom OpDef.IsVariant) (hfresh : g.Fresh)
    {log : DiagnosticLog} {node : Node} {attrs : ThresholdAttrs} {d : IntDomain}
    (hnode : g.node? id = some node) (hop : node.op = .multiThreshold attrs)
    (hdomain : IntDomain.parse config attrs.outDtype = .ok d) (hwidth : d.bitWidth ≤ 24)
    (hvalues : ((g.typeCheck registry config log).graph.evaluate .reference feeds id s).1 =
      .ok values) :
    attrs.outBias.IsInt d.least ∧ ∃ data thresholds,
      (g.typeCheck registry config log).graph.EvaluatedOn feeds id s [data, thresholds] ∧
        Kernel.Quantises d data thresholds values := by
  obtain ⟨hrefines, hcoherent⟩ :=
    (hfresh.coherent : Coherent registry config g).typeCheck hregistry log
  generalize (g.typeCheck registry config log).graph = g' at hrefines hcoherent hvalues
  obtain ⟨others, buffers, s₁, s₂, horder, -, hrun, hlast⟩ := evaluate_inv hvalues
  obtain ⟨node', type, htyped, hown, -⟩ := evaluateNode_inv hlast
  obtain ⟨hnode', htype⟩ := typedNode_eq_ok_iff.1 htyped
  have hop' : node'.op = .multiThreshold attrs := by
    cases (hrefines.retypes.node hnode).symm.trans hnode'
    exact hop
  have hcounted : g'.Counted buffers := (counted_nil g').evaluateAll hrun
  obtain ⟨data, thresholds, u, hoperands, -, hthresholds, hsuits, hanswer⟩ :=
    hcoherent.multiThreshold_of_nodeValues hregistry hcounted hnode' hop' htype hown
  obtain ⟨d', hlegal, hlevels, hbias⟩ := hsuits
  cases hdomain.symm.trans (IntDomain.parse_eq_ok_iff.2 hlegal)
  rw [← hthresholds.shape_eq] at hlevels
  rw [← inputs_eq hnode'] at hoperands
  exact ⟨hbias, data, thresholds, ⟨others, buffers, s₁, horder, hrun, hoperands⟩,
    Kernel.quantises_of_multiThreshold hwidth hbias hlevels hanswer⟩

/-- The second call maps onto the integers from `-2` to `1`. An element that crosses all of its four
thresholds comes to `2`. -/
theorem quantises_of_evaluate_chainedCalls :
    ((chainedCalls.typeCheck .builtin {} .empty).graph.evaluate .reference chainedFeeds 3 ()).1 =
        .ok ([-2, -1, 0, 2, -2, -2, -2, -1].map (.ofInt .binary32)) ∧
      (Binary.ofInt .binary64 (-2)).IsInt (IntDomain.least ⟨true, 2⟩) ∧ ∃ data thresholds,
        (chainedCalls.typeCheck .builtin {} .empty).graph.EvaluatedOn chainedFeeds 3 ()
          [data, thresholds] ∧
        Kernel.Quantises ⟨true, 2⟩ data thresholds
          ([-2, -1, 0, 2, -2, -2, -2, -1].map (.ofInt .binary32)) := by
  have hfresh : chainedCalls.Fresh := by decide +kernel
  have hnode : chainedCalls.node? 3 = some
      { op := .multiThreshold ⟨"INT2", .ofInt .binary64 (-2)⟩, inputs := [2, 1],
        type := .incomplete, payload? := none } := by
    decide +kernel
  have hdomain : IntDomain.parse {} "INT2" = .ok ⟨true, 2⟩ := by decide +kernel
  have hvalues :
      ((chainedCalls.typeCheck .builtin {} .empty).graph.evaluate .reference chainedFeeds 3 ()).1 =
        .ok ([-2, -1, 0, 2, -2, -2, -2, -1].map (.ofInt .binary32)) := by
    decide +kernel
  have hlands := quantises_of_evaluate .builtin hfresh hnode rfl hdomain (by decide) hvalues
  dsimp only at hlands
  exact ⟨hvalues, hlands⟩

end Graph

end Thresholding
