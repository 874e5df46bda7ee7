import Thresholding.Proofs.Domain.Bias
import Thresholding.Proofs.Domain.Outcome
import Thresholding.Proofs.Failure
import Thresholding.Typing.Rule

/-!
# Thresholding.Proofs.Typing.Rule

The **typing rule as one condition**: a call on tensors is typed exactly when its attributes
suit the type of its thresholds, and then it has the type of its data.
-/

namespace Thresholding

/-- The attributes of a call suit thresholds of a given type. The descriptor is legal and
names a domain; the thresholds have as many entries along their last axis as the domain has
levels; the bias is the least integer of the domain. -/
def ThresholdAttrs.Suits (attrs : ThresholdAttrs) (config : Config) (thresholds : TensorType) :
    Prop :=
  ∃ d : IntDomain, d.Legal config attrs.outDtype ∧
    (∃ last, thresholds.shape.dims.getLast? = some last ∧ last.toInt = (2 ^ d.bitWidth : Nat)) ∧
    attrs.outBias.IsInt d.least

/-- Suitable thresholds do not have a negative number of entries along their last axis. -/
theorem ThresholdAttrs.Suits.last_nonneg {attrs : ThresholdAttrs} {config : Config}
    {thresholds : TensorType} (h : attrs.Suits config thresholds) {last : Int64}
    (hlast : thresholds.shape.dims.getLast? = some last) : 0 ≤ last.toInt := by
  obtain ⟨d, -, ⟨last', hlast', hlevels⟩, -⟩ := h
  cases hlast.symm.trans hlast'
  rw [hlevels]
  exact Int.natCast_nonneg _

theorem operandType_eq_ok_iff {operand : ThresholdOperand} {found : ExprType} {type : TensorType} :
    operandType operand found = .ok type ↔ found = .tensor type := by
  cases found <;> simp [operandType]

theorem checkThresholds_eq_ok_iff {thresholds : TensorType} {attrs : ThresholdAttrs}
    {d : IntDomain} {answer : Unit} :
    checkThresholds thresholds attrs d = .ok answer ↔
      ∃ last, thresholds.shape.dims.getLast? = some last ∧ last.toInt = (2 ^ d.bitWidth : Nat) := by
  unfold checkThresholds Shape.last? IntDomain.levels
  cases thresholds.shape.dims.getLast? with
  | none => simp
  | some last =>
      simp only [Option.some.injEq, exists_eq_left']
      split
      · next h => exact iff_of_true rfl h
      · next h => exact iff_of_false (by simp) h

/-- The check of the bias is a comparison with the least integer of the domain. -/
theorem checkBias_eq_ok_iff {attrs : ThresholdAttrs} {d : IntDomain} {answer : Unit}
    (h : d.bitWidth ≤ 64) : checkBias attrs d = .ok answer ↔ attrs.outBias.IsInt d.least := by
  rw [← Binary.numEq_iff_isInt (IntDomain.isInt_expectedBias h), checkBias]
  split
  · next heq => exact iff_of_true rfl heq
  · next hne =>
      refine iff_of_false ?_ hne
      split <;> simp

/-- **The typing rule.** -/
theorem inferType_eq_ok_iff {data thresholds : ExprType} {attrs : ThresholdAttrs}
    {config : Config} {type : TensorType} :
    inferType data thresholds attrs config = .ok type ↔
      data = .tensor type ∧ ∃ u, thresholds = .tensor u ∧ attrs.Suits config u := by
  simp only [inferType, bind_eq_ok_iff, mapError_eq_ok_iff, operandType_eq_ok_iff,
    IntDomain.parse_eq_ok_iff, checkThresholds_eq_ok_iff]
  constructor
  · rintro ⟨t, hdata, u, hthresholds, d, hlegal, _, hlast, _, hbias, hresult⟩
    cases hresult
    exact ⟨hdata, u, hthresholds, d, hlegal, hlast, (checkBias_eq_ok_iff hlegal.le_max).1 hbias⟩
  · rintro ⟨hdata, u, hthresholds, d, hlegal, hlast, hbias⟩
    exact ⟨type, hdata, u, hthresholds, d, hlegal, (), hlast, (),
      (checkBias_eq_ok_iff hlegal.le_max).2 hbias, rfl⟩

/-! ### Deferred calls -/

theorem checkThresholds_not_deferred {thresholds : TensorType} {attrs : ThresholdAttrs}
    {d : IntDomain} {e : TypeError} (h : checkThresholds thresholds attrs d = .error e) :
    e.isDeferred = false := by
  unfold checkThresholds at h
  split at h
  · cases h
    rfl
  · split at h
    · exact absurd h (by simp)
    · cases h
      rfl

theorem checkBias_not_deferred {attrs : ThresholdAttrs} {d : IntDomain} {e : TypeError}
    (h : checkBias attrs d = .error e) : e.isDeferred = false := by
  unfold checkBias at h
  split at h
  · exact absurd h (by simp)
  · split at h
    · cases h
      rfl
    · cases h
      rfl

/-- A call on tensors is not deferred: whatever is wrong with it is wrong with its attributes or
with the shape of its thresholds. -/
theorem inferType_not_deferred {data thresholds : TensorType} {attrs : ThresholdAttrs}
    {config : Config} {e : TypeError}
    (h : inferType (.tensor data) (.tensor thresholds) attrs config = .error e) :
    e.isDeferred = false := by
  simp only [inferType, operandType, bind_eq_error_iff, mapError_eq_error_iff] at h
  rcases h with h | ⟨_, -, h⟩
  · exact absurd h (by simp)
  rcases h with h | ⟨_, -, h⟩
  · exact absurd h (by simp)
  rcases h with ⟨cause, -, rfl⟩ | ⟨d, -, h⟩
  · rfl
  rcases h with h | ⟨_, -, h⟩
  · exact checkThresholds_not_deferred h
  rcases h with h | ⟨_, -, h⟩
  · exact checkBias_not_deferred h
  · exact absurd h (by simp [pure, Except.pure])

/-- **A call is deferred exactly if one of its operands is no tensor.** -/
theorem inferType_deferred_iff {data thresholds : ExprType} {attrs : ThresholdAttrs}
    {config : Config} :
    (∃ e, inferType data thresholds attrs config = .error e ∧ e.isDeferred = true) ↔
      (∀ t, data ≠ .tensor t) ∨ ∀ t, thresholds ≠ .tensor t := by
  constructor
  · intro h
    obtain ⟨e, herror, hdeferred⟩ := h
    by_contra htensors
    obtain ⟨hdata, hthresholds⟩ := not_or.1 htensors
    simp only [ne_eq, not_forall, not_not] at hdata hthresholds
    obtain ⟨t, rfl⟩ := hdata
    obtain ⟨u, rfl⟩ := hthresholds
    rw [inferType_not_deferred herror] at hdeferred
    exact absurd hdeferred (by simp)
  · intro h
    cases data with
    | tuple fields => exact ⟨.notATensor .data (.tuple fields), rfl, rfl⟩
    | incomplete => exact ⟨.notATensor .data .incomplete, rfl, rfl⟩
    | tensor t =>
        -- the data is looked at first, so the thresholds are reported when it is a tensor
        have hthresholds := h.resolve_left fun hdata => hdata t rfl
        cases thresholds with
        | tuple fields => exact ⟨.notATensor .thresholds (.tuple fields), rfl, rfl⟩
        | incomplete => exact ⟨.notATensor .thresholds .incomplete, rfl, rfl⟩
        | tensor u => exact absurd rfl (hthresholds u)

/-! ### The relation -/

/-- The relation fills in a result exactly for a call of two operands that the rule types. -/
theorem thresholdRelation_eq_ok_iff {attrs : ThresholdAttrs} {config : Config}
    {slots slots' : List ExprType} :
    thresholdRelation (.multiThreshold attrs) config slots = (.ok (), slots') ↔
      ∃ data thresholds result type, slots = [data, thresholds, result] ∧
        inferType data thresholds attrs config = .ok type ∧
        slots' = [data, thresholds, .tensor type] := by
  constructor
  · intro h
    unfold thresholdRelation at h
    split at h
    · next op cfg attrs' config' data thresholds result hop =>
        cases hop
        split at h
        · next type hinfer =>
            cases h
            exact ⟨data, thresholds, result, type, rfl, hinfer, rfl⟩
        · exact absurd h (by simp)
    · exact absurd h (by simp)
    · exact absurd h (by simp)
  · rintro ⟨data, thresholds, result, type, rfl, hinfer, rfl⟩
    simp only [thresholdRelation, hinfer]

/-- The relation defers a call exactly if it has slots for two operands and one of them is no
tensor. -/
theorem thresholdRelation_deferred_iff {attrs : ThresholdAttrs} {config : Config}
    {slots : List ExprType} :
    (∃ e slots', thresholdRelation (.multiThreshold attrs) config slots = (.error e, slots') ∧
        e.isDeferred = true) ↔
      ∃ data thresholds result, slots = [data, thresholds, result] ∧
        ((∀ t, data ≠ .tensor t) ∨ ∀ t, thresholds ≠ .tensor t) := by
  constructor
  · intro h
    obtain ⟨e, slots', h, hdeferred⟩ := h
    unfold thresholdRelation at h
    split at h
    · next op cfg attrs' config' data thresholds result hop =>
        cases hop
        split at h
        · exact absurd h (by simp)
        · next e' hinfer =>
            cases h
            exact ⟨data, thresholds, result, rfl, inferType_deferred_iff.1 ⟨e, hinfer, hdeferred⟩⟩
    · cases h
      exact absurd hdeferred (by simp [TypeError.isDeferred])
    · cases h
      exact absurd hdeferred (by simp [TypeError.isDeferred])
  · intro h
    obtain ⟨data, thresholds, result, rfl, h⟩ := h
    have hfails : ∃ e, inferType data thresholds attrs config = .error e ∧ e.isDeferred = true :=
      inferType_deferred_iff.2 h
    obtain ⟨e, hinfer, hdeferred⟩ := hfails
    exact ⟨e, [data, thresholds, result], by simp only [thresholdRelation, hinfer], hdeferred⟩

end Thresholding
