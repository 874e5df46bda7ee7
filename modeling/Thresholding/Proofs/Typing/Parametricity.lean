import Thresholding.Proofs.Typing.Rule

/-!
# Thresholding.Proofs.Typing.Parametricity

**What the typing rule does not look at.** The type of the data is handed on to the result and
otherwise left alone, and of the type of the thresholds the rule sees the last dimension only. So
what is found wrong with a call on tensors does not tell one of these types from another.

Both are statements about two calls. They are read off one equation about a single call
(`inferType_tensor`): everything there is to check of a call on a tensor is a verdict in which the
tensor does not occur. The verdict in turn is the same for thresholds with the same last dimension
(`verdict_congr`).
-/

namespace Thresholding

variable {thresholds : ExprType} {t t' u u' : TensorType} {attrs : ThresholdAttrs}
  {config : Config} {d : IntDomain}

/-! ### The last dimension -/

/-- Two tensor types have the same last dimension, or both are types of scalars. -/
def TensorType.SameLastDimension (u u' : TensorType) : Prop :=
  (u.shape.rank = 0 ∧ u'.shape.rank = 0) ∨
    ∃ last, u.shape.dims.getLast? = some last ∧ u'.shape.dims.getLast? = some last

theorem Shape.last?_eq_none_iff {s : Shape} : s.last? = none ↔ s.rank = 0 := by
  rw [last?, List.getLast?_eq_none_iff, rank, List.length_eq_zero_iff]

theorem TensorType.SameLastDimension.last?_eq (h : u.SameLastDimension u') :
    u.shape.last? = u'.shape.last? := by
  rcases h with ⟨hrank, hrank'⟩ | ⟨last, hlast, hlast'⟩
  · rw [Shape.last?_eq_none_iff.2 hrank, Shape.last?_eq_none_iff.2 hrank']
  · rw [Shape.last?, Shape.last?, hlast, hlast']

/-- The last dimension is all that the check of the thresholds sees, and all that it reports. -/
theorem checkThresholds_congr (h : u.SameLastDimension u') :
    checkThresholds u attrs d = checkThresholds u' attrs d := by
  rw [checkThresholds, checkThresholds, h.last?_eq]

/-! ### The verdict -/

/-- What the rule has to say of a call on a tensor, whichever tensor that is. -/
def verdict (thresholds : ExprType) (attrs : ThresholdAttrs) (config : Config) :
    Except TypeError Unit := do
  let thresholds ← operandType .thresholds thresholds
  let domain ← (IntDomain.parse config attrs.outDtype).mapError .badDescriptor
  checkThresholds thresholds attrs domain
  checkBias attrs domain

/-- **The type of the data has no part in the verdict.** It is the type of the result if the
verdict is favourable, and is forgotten otherwise. -/
theorem inferType_tensor : inferType (.tensor t) thresholds attrs config =
    (fun _ => t) <$> verdict thresholds attrs config := by
  have hdata : operandType .data (.tensor t) = pure t := rfl
  simp only [inferType, verdict, hdata, pure_bind, map_bind, bind_pure_comp]

theorem verdict_tensor : verdict (.tensor u) attrs config =
    (do
      let domain ← (IntDomain.parse config attrs.outDtype).mapError .badDescriptor
      checkThresholds u attrs domain
      checkBias attrs domain) := rfl

theorem verdict_congr (h : u.SameLastDimension u') :
    verdict (.tensor u) attrs config = verdict (.tensor u') attrs config := by
  have hcheck : ∀ d, checkThresholds u attrs d = checkThresholds u' attrs d :=
    fun _ => checkThresholds_congr h
  simp only [verdict_tensor, hcheck]

/-! ### Two calls -/

/-- Thresholds with the same last dimension are as good as each other, for data of any type. -/
theorem inferType_congr_thresholds (h : u.SameLastDimension u') (data : ExprType) :
    inferType data (.tensor u) attrs config = inferType data (.tensor u') attrs config := by
  cases data with
  | tensor t => rw [inferType_tensor, inferType_tensor, verdict_congr h]
  -- data that is no tensor is reported before the thresholds are looked at
  | tuple fields => rfl
  | incomplete => rfl

/-- Two calls that differ in the tensors they are made on are both typed, each with its own tensor
type, or both fail for the same cause. -/
theorem inferType_data_cases (t t' : TensorType) (thresholds : ExprType) :
    (inferType (.tensor t) thresholds attrs config = .ok t ∧
      inferType (.tensor t') thresholds attrs config = .ok t') ∨
    ∃ e, inferType (.tensor t) thresholds attrs config = .error e ∧
      inferType (.tensor t') thresholds attrs config = .error e := by
  rw [inferType_tensor, inferType_tensor]
  cases verdict thresholds attrs config with
  | ok _ => exact Or.inl ⟨rfl, rfl⟩
  | error e => exact Or.inr ⟨e, rfl, rfl⟩

/-- What the typing rule does not tell apart, for given attributes. -/
structure Overlooks (attrs : ThresholdAttrs) (config : Config) : Prop where
  /-- Thresholds with the same last dimension get the same answer with data of any type. -/
  thresholds : ∀ (data : ExprType) (u u' : TensorType), u.SameLastDimension u' →
    inferType data (.tensor u) attrs config = inferType data (.tensor u') attrs config
  /-- Data of one tensor type has a result exactly if data of any other has. -/
  accepts : ∀ (t t' : TensorType) (thresholds : ExprType),
    inferType (.tensor t) thresholds attrs config = .ok t ↔
      inferType (.tensor t') thresholds attrs config = .ok t'
  /-- If there is no such result, both are reported in the same way. -/
  rejects : ∀ (t t' : TensorType) (thresholds : ExprType),
    inferType (.tensor t) thresholds attrs config ≠ .ok t →
      ∃ e, inferType (.tensor t) thresholds attrs config = .error e ∧
        inferType (.tensor t') thresholds attrs config = .error e

/-- **The typing rule is parametric** in the type of the data and in everything about the type of
the thresholds but its last dimension. -/
theorem inferType_overlooks (attrs : ThresholdAttrs) (config : Config) :
    Overlooks attrs config where
  thresholds data _ _ h := inferType_congr_thresholds h data
  accepts t t' thresholds := by
    rcases inferType_data_cases t t' thresholds with ⟨hok, hok'⟩ | ⟨e, herror, herror'⟩
    · exact iff_of_true hok hok'
    · rw [herror, herror']
      exact iff_of_false (by simp) (by simp)
  rejects t t' thresholds h := by
    rcases inferType_data_cases t t' thresholds with ⟨hok, -⟩ | herror
    · exact absurd hok h
    · exact herror

/-- Neither the rank nor the element type nor a negative dimension further left comes through in
what is reported. -/
example :
    let report : Except TypeError TensorType := .error (.thresholdCountMismatch "UINT2" 2 4 5)
    inferType (.tensor ⟨⟨[3]⟩, .int8⟩) (.tensor ⟨⟨[-7, 0, 5]⟩, .int64⟩) ⟨"UINT2", .nan⟩ {} = report ∧
    inferType (.tensor ⟨⟨[]⟩, .float16⟩) (.tensor ⟨⟨[5]⟩, .float32⟩) ⟨"UINT2", .nan⟩ {} = report := by
  decide +kernel

end Thresholding
