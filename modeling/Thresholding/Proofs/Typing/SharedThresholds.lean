import Thresholding.Proofs.Binary.Exactness
import Thresholding.Proofs.Domain.Range
import Thresholding.Proofs.Typing.Rule

/-!
# Thresholding.Proofs.Typing.SharedThresholds

**Thresholds and a bias determine the domain** of a typed call.

Thresholds say how many levels there are and so how many bits the domain has. What is left open is
the sign, and the bias tells it, since domains with a sign and a bit have a negative least integer.
Neither the spelling of a descriptor nor the sign of a zero makes a difference to that.

A domain without bits has one level and the bias zero, with a sign or without. So all this is about
configurations that do not allow the width zero.
-/

namespace Thresholding

variable {data data' u t t' : TensorType} {attrs attrs' : ThresholdAttrs} {config config' : Config}
  {d d' : IntDomain}

/-- The thresholds have as many entries along their last axis as a domain has levels. -/
def TensorType.HasLevels (u : TensorType) (d : IntDomain) : Prop :=
  ∃ last, u.shape.dims.getLast? = some last ∧ last.toInt = (2 ^ d.bitWidth : Nat)

/-- The same thresholds have the levels of domains of one width only. -/
theorem TensorType.HasLevels.bitWidth_eq (h : u.HasLevels d) (h' : u.HasLevels d') :
    d.bitWidth = d'.bitWidth := by
  obtain ⟨last, hlast, hlevels⟩ := h
  obtain ⟨last', hlast', hlevels'⟩ := h'
  cases hlast.symm.trans hlast'
  have hpow : 2 ^ d.bitWidth = 2 ^ d'.bitWidth := Int.ofNat_inj.1 (hlevels.symm.trans hlevels')
  exact (Nat.pow_right_inj Nat.one_lt_two).1 hpow

theorem exists_parse_of_inferType
    (h : inferType (.tensor data) (.tensor u) attrs config = .ok t) :
    ∃ d, IntDomain.parse config attrs.outDtype = .ok d := by
  obtain ⟨-, _, -, d, hlegal, -⟩ := inferType_eq_ok_iff.1 h
  exact ⟨d, IntDomain.parse_eq_ok_iff.2 hlegal⟩

/-- Once the domain is known, a call on tensors is typed exactly if the thresholds have its levels
and the bias is its least integer. -/
theorem inferType_isOk_iff (hparse : IntDomain.parse config attrs.outDtype = .ok d) :
    (∃ t, inferType (.tensor data) (.tensor u) attrs config = .ok t) ↔
      u.HasLevels d ∧ attrs.outBias.IsInt d.least := by
  constructor
  · intro h
    obtain ⟨_, h⟩ := h
    obtain ⟨-, _, hu, d', hlegal, hlevels, hbias⟩ := inferType_eq_ok_iff.1 h
    cases hu
    cases hparse.symm.trans (IntDomain.parse_eq_ok_iff.2 hlegal)
    exact ⟨hlevels, hbias⟩
  · intro h
    have hlegal := IntDomain.parse_eq_ok_iff.1 hparse
    exact ⟨data, inferType_eq_ok_iff.2 ⟨rfl, u, rfl, d, hlegal, h.1, h.2⟩⟩

/-- A domain has one bias on the thresholds of a given type: the calls whose descriptor names it are
typed exactly if their bias is a certain number, however it is written. -/
def HasOneBias (u : TensorType) (d : IntDomain) : Prop :=
  ∃! n : Int, ∀ (data : TensorType) (attrs : ThresholdAttrs) (config : Config),
    config.allowZeroWidth = false → IntDomain.parse config attrs.outDtype = .ok d →
      ((∃ t, inferType (.tensor data) (.tensor u) attrs config = .ok t) ↔ attrs.outBias.IsInt n)

/-- The one bias is the least integer. -/
theorem hasOneBias_of_inferType (hzero : config.allowZeroWidth = false)
    (hparse : IntDomain.parse config attrs.outDtype = .ok d)
    (h : inferType (.tensor data) (.tensor u) attrs config = .ok t) : HasOneBias u d := by
  obtain ⟨hlevels, hbias⟩ := (inferType_isOk_iff hparse).1 ⟨t, h⟩
  refine ⟨d.least, ?_, ?_⟩
  · intro data' attrs' config' _ hparse'
    rw [inferType_isOk_iff hparse']
    exact and_iff_right hlevels
  · intro n hn
    exact Binary.IsInt.unique ((hn data attrs config hzero hparse).1 ⟨t, h⟩) hbias

/-- **Thresholds and a bias determine the domain.** Two typed calls on thresholds of the same type
have domains of the same width, which are the same exactly if the biases are equal as numbers; and
each of the two domains has only one bias. -/
theorem bias_determines_domain (hzero : config.allowZeroWidth = false)
    (hzero' : config'.allowZeroWidth = false)
    (h : inferType (.tensor data) (.tensor u) attrs config = .ok t)
    (h' : inferType (.tensor data') (.tensor u) attrs' config' = .ok t') :
    ∃ d d', IntDomain.parse config attrs.outDtype = .ok d ∧
      IntDomain.parse config' attrs'.outDtype = .ok d' ∧
      d.bitWidth = d'.bitWidth ∧ (d = d' ↔ attrs.outBias.numEq attrs'.outBias = true) ∧
      HasOneBias u d ∧ HasOneBias u d' := by
  obtain ⟨d, hparse⟩ := exists_parse_of_inferType h
  obtain ⟨d', hparse'⟩ := exists_parse_of_inferType h'
  obtain ⟨hlevels, hbias⟩ := (inferType_isOk_iff hparse).1 ⟨t, h⟩
  obtain ⟨hlevels', hbias'⟩ := (inferType_isOk_iff hparse').1 ⟨t', h'⟩
  have hwidth : d.bitWidth = d'.bitWidth := hlevels.bitWidth_eq hlevels'
  have hpos : 1 ≤ d.bitWidth :=
    (IntDomain.parse_eq_ok_iff.1 hparse).pos.resolve_right (by simp [hzero])
  refine ⟨d, d', hparse, hparse', hwidth, ?_, hasOneBias_of_inferType hzero hparse h,
    hasOneBias_of_inferType hzero' hparse' h'⟩
  rw [hbias.numEq_iff hbias', IntDomain.least_eq_least_iff hwidth hpos]

/-- A width may be written with a zero before it, and the bias zero with either sign. -/
theorem bias_determines_domain_leadingZero :
    let u : TensorType := ⟨⟨[3, 4]⟩, .float32⟩
    ∃ d d', IntDomain.parse {} "UINT02" = .ok d ∧
      IntDomain.parse { prefixMatch := .anchored } "UINT2" = .ok d' ∧
      d.bitWidth = d'.bitWidth ∧ (d = d' ↔ (Binary.zero : Double).numEq (-Binary.zero) = true) ∧
      HasOneBias u d ∧ HasOneBias u d' :=
  have h : inferType (.tensor ⟨⟨[2, 3]⟩, .float32⟩) (.tensor ⟨⟨[3, 4]⟩, .float32⟩)
      ⟨"UINT02", .zero⟩ {} = .ok ⟨⟨[2, 3]⟩, .float32⟩ := by decide +kernel
  have h' : inferType (.tensor ⟨⟨[3]⟩, .float32⟩) (.tensor ⟨⟨[3, 4]⟩, .float32⟩)
      ⟨"UINT2", -.zero⟩ { prefixMatch := .anchored } = .ok ⟨⟨[3]⟩, .float32⟩ := by decide +kernel
  bias_determines_domain rfl rfl h h'

/-- Where the width zero is allowed, two domains share their thresholds and their bias. -/
example :
    let u : ExprType := .tensor ⟨⟨[1]⟩, .float32⟩
    inferType u u ⟨"INT0", .zero⟩ { allowZeroWidth := true } = .ok ⟨⟨[1]⟩, .float32⟩ ∧
    inferType u u ⟨"UINT0", .zero⟩ { allowZeroWidth := true } = .ok ⟨⟨[1]⟩, .float32⟩ := by
  decide +kernel

end Thresholding
