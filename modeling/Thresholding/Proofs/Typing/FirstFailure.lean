import Thresholding.Proofs.Domain.Range
import Thresholding.Proofs.Domain.Spelling
import Thresholding.Proofs.Typing.Rule

/-!
# Thresholding.Proofs.Typing.FirstFailure

**What the typing rule decides, and what it reports.** A call is typed when all conditions of the
rule hold, and otherwise the first one that fails is reported.

`FirstFailure` has a constructor for each condition, which assumes those before it. So it tells
which report is made when several conditions fail, and the rule reports nothing else
(`inferType_eq_error_iff`).

A dimension has 64 bits with its sign. No thresholds have as many entries along an axis as a domain
of 63 or 64 bits has levels, although such a domain can be written.
-/

namespace Thresholding

variable {data thresholds : ExprType} {attrs : ThresholdAttrs} {config : Config} {t u : TensorType}
  {d : IntDomain} {e : TypeError}

/-! ### The conditions, one by one -/

theorem operandType_eq_error_iff {operand : ThresholdOperand} {found : ExprType} :
    operandType operand found = .error e ↔
      (∀ t, found ≠ .tensor t) ∧ e = .notATensor operand found := by
  cases found <;> simp [operandType, eq_comm]

theorem checkThresholds_eq_error_iff : checkThresholds u attrs d = .error e ↔
    (u.shape.rank = 0 ∧ e = .emptyShape) ∨
      ∃ last, u.shape.dims.getLast? = some last ∧ last.toInt ≠ (2 ^ d.bitWidth : Nat) ∧
        e = .thresholdCountMismatch attrs.outDtype d.bitWidth (2 ^ d.bitWidth) last := by
  unfold checkThresholds Shape.last? Shape.rank IntDomain.levels
  rw [List.length_eq_zero_iff, ← List.getLast?_eq_none_iff]
  cases u.shape.dims.getLast? with
  | none => simp [eq_comm]
  | some last =>
      simp only [reduceCtorEq, false_and, false_or, Option.some.injEq, exists_eq_left']
      by_cases hlast : last.toInt = (2 ^ d.bitWidth : Nat)
      · rw [if_pos hlast]
        exact iff_of_false (by simp) fun h => h.1 hlast
      · rw [if_neg hlast, Except.error.injEq]
        exact ⟨fun h => ⟨hlast, h.symm⟩, fun h => h.2.symm⟩

theorem checkBias_eq_error_iff (h : d.bitWidth ≤ 64) : checkBias attrs d = .error e ↔
    ¬ attrs.outBias.IsInt d.least ∧
      e = if d.signed then .badSignedBias attrs.outDtype d.expectedBias attrs.outBias
        else .badUnsignedBias attrs.outDtype attrs.outBias := by
  rw [← Binary.numEq_iff_isInt (IntDomain.isInt_expectedBias h), checkBias]
  by_cases hbias : attrs.outBias.numEq d.expectedBias = true
  · simp [hbias]
  · rw [if_neg hbias]
    cases d.signed <;> simp [hbias, eq_comm]

/-- A text that no domain is read from names none, and the other way round. -/
theorem IntDomain.exists_parse_error_iff {descriptor : String} :
    (∃ cause, parse config descriptor = .error cause) ↔
      ∀ d : IntDomain, ¬ d.Legal config descriptor := by
  simp only [← parse_eq_ok_iff]
  cases parse config descriptor <;> simp

/-! ### The order of the conditions -/

/-- Why a call is not typed: the first condition of the typing rule that fails, the ones before it
being met. -/
inductive FirstFailure (data thresholds : ExprType) (attrs : ThresholdAttrs) (config : Config) :
    TypeError → Prop
  /-- The data is no tensor. -/
  | data : (∀ t, data ≠ .tensor t) →
      FirstFailure data thresholds attrs config (.notATensor .data data)
  /-- The thresholds are no tensor. -/
  | thresholds {t : TensorType} : data = .tensor t → (∀ u, thresholds ≠ .tensor u) →
      FirstFailure data thresholds attrs config (.notATensor .thresholds thresholds)
  /-- The descriptor names no domain. What it is refused for is told by its reader. -/
  | descriptor {t u : TensorType} {cause : DescriptorError} :
      data = .tensor t → thresholds = .tensor u →
      (∀ d : IntDomain, ¬ d.Legal config attrs.outDtype) →
      IntDomain.parse config attrs.outDtype = .error cause →
      FirstFailure data thresholds attrs config (.badDescriptor cause)
  /-- The thresholds are a scalar. -/
  | rank {t u : TensorType} {d : IntDomain} : data = .tensor t → thresholds = .tensor u →
      d.Legal config attrs.outDtype → u.shape.rank = 0 →
      FirstFailure data thresholds attrs config .emptyShape
  /-- The last dimension of the thresholds is not the number of levels. -/
  | lastDimension {t u : TensorType} {d : IntDomain} {last : Int64} :
      data = .tensor t → thresholds = .tensor u → d.Legal config attrs.outDtype →
      u.shape.dims.getLast? = some last → last.toInt ≠ (2 ^ d.bitWidth : Nat) →
      FirstFailure data thresholds attrs config
        (.thresholdCountMismatch attrs.outDtype d.bitWidth (2 ^ d.bitWidth) last)
  /-- The bias is not the least integer of a signed domain. -/
  | signedBias {t u : TensorType} {d : IntDomain} {last : Int64} :
      data = .tensor t → thresholds = .tensor u → d.Legal config attrs.outDtype →
      u.shape.dims.getLast? = some last → last.toInt = (2 ^ d.bitWidth : Nat) →
      d.signed = true → ¬ attrs.outBias.IsInt d.least →
      FirstFailure data thresholds attrs config
        (.badSignedBias attrs.outDtype d.expectedBias attrs.outBias)
  /-- The bias is not the least integer of an unsigned domain. -/
  | unsignedBias {t u : TensorType} {d : IntDomain} {last : Int64} :
      data = .tensor t → thresholds = .tensor u → d.Legal config attrs.outDtype →
      u.shape.dims.getLast? = some last → last.toInt = (2 ^ d.bitWidth : Nat) →
      d.signed = false → ¬ attrs.outBias.IsInt d.least →
      FirstFailure data thresholds attrs config (.badUnsignedBias attrs.outDtype attrs.outBias)

/-- A failure of the rule, condition by condition. -/
theorem inferType_eq_error_cases : inferType data thresholds attrs config = .error e ↔
    ((∀ t, data ≠ .tensor t) ∧ e = .notATensor .data data) ∨
    ∃ t, data = .tensor t ∧
      (((∀ u, thresholds ≠ .tensor u) ∧ e = .notATensor .thresholds thresholds) ∨
      ∃ u, thresholds = .tensor u ∧
        ((∃ cause, IntDomain.parse config attrs.outDtype = .error cause ∧
          .badDescriptor cause = e) ∨
        ∃ d, IntDomain.Legal config attrs.outDtype d ∧
          (checkThresholds u attrs d = .error e ∨
          ∃ answer, checkThresholds u attrs d = .ok answer ∧ checkBias attrs d = .error e))) := by
  simp only [inferType, bind_eq_error_iff, operandType_eq_error_iff, operandType_eq_ok_iff,
    mapError_eq_error_iff, mapError_eq_ok_iff, IntDomain.parse_eq_ok_iff, pure, Except.pure,
    reduceCtorEq, and_false, exists_false, or_false]

/-- **The first condition that fails is reported**, and nothing else. -/
theorem inferType_eq_error_iff : inferType data thresholds attrs config = .error e ↔
    FirstFailure data thresholds attrs config e := by
  rw [inferType_eq_error_cases]
  constructor
  · rintro (⟨hdata, rfl⟩ | ⟨t, hdata, ⟨hthresholds, rfl⟩ | ⟨u, hthresholds, h⟩⟩)
    · exact .data hdata
    · exact .thresholds hdata hthresholds
    rcases h with ⟨cause, hcause, rfl⟩ | ⟨d, hd, h⟩
    · exact .descriptor hdata hthresholds (IntDomain.exists_parse_error_iff.1 ⟨cause, hcause⟩) hcause
    rcases h with h | ⟨_, hlevels, h⟩
    · rcases checkThresholds_eq_error_iff.1 h with ⟨hrank, rfl⟩ | ⟨last, hlast, hlevels, rfl⟩
      · exact .rank hdata hthresholds hd hrank
      · exact .lastDimension hdata hthresholds hd hlast hlevels
    · obtain ⟨last, hlast, hlevels⟩ := checkThresholds_eq_ok_iff.1 hlevels
      obtain ⟨hbias, rfl⟩ := (checkBias_eq_error_iff hd.le_max).1 h
      cases hsigned : d.signed with
      | true => exact .signedBias hdata hthresholds hd hlast hlevels hsigned hbias
      | false => exact .unsignedBias hdata hthresholds hd hlast hlevels hsigned hbias
  · intro h
    cases h with
    | data hdata => exact Or.inl ⟨hdata, rfl⟩
    | thresholds hdata hthresholds => exact Or.inr ⟨_, hdata, Or.inl ⟨hthresholds, rfl⟩⟩
    | descriptor hdata hthresholds _ hcause =>
        exact Or.inr ⟨_, hdata, Or.inr ⟨_, hthresholds, Or.inl ⟨_, hcause, rfl⟩⟩⟩
    | rank hdata hthresholds hd hrank =>
        refine Or.inr ⟨_, hdata, Or.inr ⟨_, hthresholds, Or.inr ⟨_, hd, Or.inl ?_⟩⟩⟩
        exact checkThresholds_eq_error_iff.2 (Or.inl ⟨hrank, rfl⟩)
    | lastDimension hdata hthresholds hd hlast hlevels =>
        refine Or.inr ⟨_, hdata, Or.inr ⟨_, hthresholds, Or.inr ⟨_, hd, Or.inl ?_⟩⟩⟩
        exact checkThresholds_eq_error_iff.2 (Or.inr ⟨_, hlast, hlevels, rfl⟩)
    | signedBias hdata hthresholds hd hlast hlevels hsigned hbias
    | unsignedBias hdata hthresholds hd hlast hlevels hsigned hbias =>
        refine Or.inr ⟨_, hdata, Or.inr ⟨_, hthresholds, Or.inr ⟨_, hd, Or.inr ⟨(), ?_, ?_⟩⟩⟩⟩
        · exact checkThresholds_eq_ok_iff.2 ⟨_, hlast, hlevels⟩
        · exact (checkBias_eq_error_iff hd.le_max).2 ⟨hbias, by simp [hsigned]⟩

/-! ### The decision -/

/-- Thresholds have at most as many entries along their last axis as a domain of 62 bits has
levels. -/
theorem bitWidth_le_of_last {last : Int64} {width : Nat} (h : last.toInt = (2 ^ width : Nat)) :
    width ≤ 62 := by
  have hlast := last.toInt_lt
  rw [h] at hlast
  have hlevels : 2 ^ width < 2 ^ 63 := by exact_mod_cast hlast
  exact Nat.lt_succ_iff.1 ((Nat.pow_lt_pow_iff_right Nat.one_lt_two).1 hlevels)

/-- What the typing rule decides about a call. -/
structure RuleDecides (data thresholds : ExprType) (attrs : ThresholdAttrs) (config : Config) :
    Prop where
  /-- The call is typed exactly if its operands are tensors, its descriptor spells a domain of at
  most 62 bits, and of at least one unless zero is allowed, the last dimension of its thresholds is
  the number of levels of that domain, and its bias is the least integer of it. -/
  accepts : ∀ t, inferType data thresholds attrs config = .ok t ↔
    data = .tensor t ∧ ∃ u last, ∃ d : IntDomain, thresholds = .tensor u ∧
      IntDomain.Spells attrs.outDtype d ∧ d.bitWidth ≤ 62 ∧
      (1 ≤ d.bitWidth ∨ config.allowZeroWidth = true) ∧
      u.shape.dims.getLast? = some last ∧ last.toInt = (2 ^ d.bitWidth : Nat) ∧
      attrs.outBias.IsInt
        (if d.signed = true ∧ 1 ≤ d.bitWidth then -2 ^ (d.bitWidth - 1) else 0)
  /-- Otherwise the first condition that fails is reported. -/
  rejects : ∀ e, inferType data thresholds attrs config = .error e ↔
    FirstFailure data thresholds attrs config e
  /-- A domain of 63 or 64 bits has more levels than thresholds can have entries, so they never
  match. -/
  tooWide : ∀ (t u : TensorType) (d : IntDomain) last, data = .tensor t → thresholds = .tensor u →
    d.Legal config attrs.outDtype → 62 < d.bitWidth → u.shape.dims.getLast? = some last →
    inferType data thresholds attrs config =
      .error (.thresholdCountMismatch attrs.outDtype d.bitWidth (2 ^ d.bitWidth) last)
  /-- A bias that is not a number suits no domain. -/
  notANumber : attrs.outBias = .nan → ∀ t, inferType data thresholds attrs config ≠ .ok t

/-- The attributes of a call suit thresholds exactly if its descriptor spells a domain of at most 62
bits, whose levels are the last dimension and whose least integer is the bias. -/
theorem ThresholdAttrs.suits_iff_spells : attrs.Suits config u ↔
    ∃ last, ∃ d : IntDomain, IntDomain.Spells attrs.outDtype d ∧ d.bitWidth ≤ 62 ∧
      (1 ≤ d.bitWidth ∨ config.allowZeroWidth = true) ∧
      u.shape.dims.getLast? = some last ∧ last.toInt = (2 ^ d.bitWidth : Nat) ∧
      attrs.outBias.IsInt
        (if d.signed = true ∧ 1 ≤ d.bitWidth then -2 ^ (d.bitWidth - 1) else 0) := by
  simp only [← IntDomain.least_eq]
  constructor
  · intro h
    obtain ⟨d, hlegal, ⟨last, hlast, hlevels⟩, hbias⟩ := h
    obtain ⟨hspells, -, hpos⟩ := IntDomain.legal_iff_spells.1 hlegal
    exact ⟨last, d, hspells, bitWidth_le_of_last hlevels, hpos, hlast, hlevels, hbias⟩
  · intro h
    obtain ⟨last, d, hspells, hwidth, hpos, hlast, hlevels, hbias⟩ := h
    have hlegal := IntDomain.legal_iff_spells.2 ⟨hspells, Nat.le_trans hwidth (by decide), hpos⟩
    exact ⟨d, hlegal, ⟨last, hlast, hlevels⟩, hbias⟩

/-- **The typing rule decides every call**, for all types, attributes and configurations. -/
theorem inferType_decides (data thresholds : ExprType) (attrs : ThresholdAttrs) (config : Config) :
    RuleDecides data thresholds attrs config where
  accepts t := by
    rw [inferType_eq_ok_iff]
    refine and_congr_right fun _ => ?_
    simp only [ThresholdAttrs.suits_iff_spells]
    constructor
    · intro h
      obtain ⟨u, hthresholds, last, d, h⟩ := h
      exact ⟨u, last, d, hthresholds, h⟩
    · intro h
      obtain ⟨u, last, d, hthresholds, h⟩ := h
      exact ⟨u, hthresholds, last, d, h⟩
  rejects _ := inferType_eq_error_iff
  tooWide t u d last hdata hthresholds hd hwide hlast := by
    refine inferType_eq_error_iff.2 (.lastDimension hdata hthresholds hd hlast fun hlevels => ?_)
    exact absurd (bitWidth_le_of_last hlevels) (Nat.not_le.2 hwide)
  notANumber hnan t h := by
    obtain ⟨-, u, -, d, -, -, hbias⟩ := inferType_eq_ok_iff.1 h
    obtain ⟨_, _, _, hfinite, -⟩ := hbias
    rw [hnan] at hfinite
    exact absurd hfinite (by simp)

/-- Nothing is right with the first call but its operands, and its descriptor is reported. With
another descriptor the thresholds are, and with one that they match the bias. -/
example :
    let x : ExprType := .tensor ⟨⟨[1]⟩, .float32⟩
    inferType x x ⟨"INT65", .nan⟩ {} = .error (.badDescriptor (.widthTooLarge "INT65" 65)) ∧
    inferType x x ⟨"INT63", .nan⟩ {} = .error (.thresholdCountMismatch "INT63" 63 (2 ^ 63) 1) ∧
    inferType x x ⟨"UINT0", .nan⟩ { allowZeroWidth := true } =
      .error (.badUnsignedBias "UINT0" .nan) := by
  decide +kernel

end Thresholding
