import Thresholding.Proofs.Registry.Variants
import Thresholding.Proofs.Typing.Rule

/-!
# Thresholding.Proofs.Typing.Slots

**Typing in place.** A host types a call in a list of slots that outlives the attempt. The relation
that it runs there is the typing rule with a place to write to: it writes one slot when the rule
gives a type, and none otherwise.

`SlotFailure` says why nothing is written, with one constructor for each of the three conditions in
their order. It is as exact as the rule is (`thresholdRelation_eq_error_iff`), so a failed attempt
can be told from the list alone, and the list is there to be tried again.

A registered variant may have another number of inputs, so the list may have any length.
-/

namespace Thresholding

variable {op : Op} {attrs : ThresholdAttrs} {config : Config} {slots slots' : List ExprType}
  {e : TypeError}

/-! ### Why nothing is written -/

/-- Why the relation fails on a list of slots: the first of three conditions that is not met. -/
inductive SlotFailure (op : Op) (config : Config) (slots : List ExprType) : TypeError → Prop
  /-- The operator is a source. The slots are not looked at. -/
  | source : op.isSource = true → SlotFailure op config slots (.unexpectedOp Op.multiThresholdName)
  /-- The slots are not those of two operands and a result. -/
  | arity {attrs : ThresholdAttrs} : op = .multiThreshold attrs → slots.length ≠ 3 →
      SlotFailure op config slots (.arityMismatch 3 slots.length)
  /-- The typing rule gives no type. -/
  | rule {attrs : ThresholdAttrs} {data thresholds result : ExprType} {e : TypeError} :
      op = .multiThreshold attrs → slots = [data, thresholds, result] →
      inferType data thresholds attrs config = .error e → SlotFailure op config slots e

theorem thresholdRelation_of_isSource (h : op.isSource = true) :
    thresholdRelation op config slots = (.error (.unexpectedOp Op.multiThresholdName), slots) := by
  cases op with
  | var name => rfl
  | constant => rfl
  | multiThreshold attrs => exact absurd h (by simp [Op.isSource])

theorem thresholdRelation_of_length_ne (h : slots.length ≠ 3) :
    thresholdRelation (.multiThreshold attrs) config slots =
      (.error (.arityMismatch 3 slots.length), slots) := by
  match slots, h with
  | [], _ => rfl
  | [_], _ => rfl
  | [_, _], _ => rfl
  | [_, _, _], h => exact absurd rfl h
  | _ :: _ :: _ :: _ :: _, _ => rfl

theorem SlotFailure.thresholdRelation_eq (h : SlotFailure op config slots e) :
    thresholdRelation op config slots = (.error e, slots) := by
  cases h with
  | source hsource => exact thresholdRelation_of_isSource hsource
  | arity hop hlength => rw [hop, thresholdRelation_of_length_ne hlength]
  | rule hop hslots herror =>
      subst hop hslots
      simp only [thresholdRelation, herror]

/-- **All that the relation does**: it fills the last of three slots, or it fails for one of the
three reasons. -/
theorem thresholdRelation_cases (op : Op) (config : Config) (slots : List ExprType) :
    (∃ attrs data thresholds result t, op = .multiThreshold attrs ∧
        slots = [data, thresholds, result] ∧ inferType data thresholds attrs config = .ok t) ∨
      ∃ e, SlotFailure op config slots e := by
  cases hop : op with
  | var name => exact Or.inr ⟨_, .source rfl⟩
  | constant => exact Or.inr ⟨_, .source rfl⟩
  | multiThreshold attrs =>
      by_cases hlength : slots.length = 3
      · obtain ⟨data, thresholds, result, hslots⟩ := List.length_eq_three.1 hlength
        cases hinfer : inferType data thresholds attrs config with
        | ok t => exact Or.inl ⟨attrs, data, thresholds, result, t, rfl, hslots, hinfer⟩
        | error e => exact Or.inr ⟨e, .rule rfl hslots hinfer⟩
      · exact Or.inr ⟨_, .arity rfl hlength⟩

theorem thresholdRelation_eq_error_iff :
    thresholdRelation op config slots = (.error e, slots') ↔
      SlotFailure op config slots e ∧ slots' = slots := by
  constructor
  · intro h
    rcases thresholdRelation_cases op config slots with
      ⟨attrs, data, thresholds, result, t, rfl, hslots, hinfer⟩ | ⟨e', hfailure⟩
    · have hok := thresholdRelation_eq_ok_iff.2 ⟨data, thresholds, result, t, hslots, hinfer, rfl⟩
      exact absurd (hok.symm.trans h) (by simp)
    · cases hfailure.thresholdRelation_eq.symm.trans h
      exact ⟨hfailure, rfl⟩
  · rintro ⟨hfailure, rfl⟩
    exact hfailure.thresholdRelation_eq

/-- Only thresholding operators have calls that are typed or deferred. -/
theorem exists_attrs_of_thresholdRelation {answer : Except TypeError Unit}
    (h : thresholdRelation op config slots = (answer, slots'))
    (hanswer : answer ≠ .error (.unexpectedOp Op.multiThresholdName)) :
    ∃ attrs, op = .multiThreshold attrs := by
  cases op with
  | var name => exact absurd (congrArg Prod.fst h).symm hanswer
  | constant => exact absurd (congrArg Prod.fst h).symm hanswer
  | multiThreshold attrs => exact ⟨attrs, rfl⟩

/-! ### The relation of a definition -/

/-- What a relation does that is the typing rule with a slot to write to. -/
structure TypesInPlace (relation : Relation) : Prop where
  /-- It succeeds exactly for a thresholding operator and three slots, if the rule gives the first
  two a type. Then this type is in the last slot, whatever was there, and the operands are as they
  were. -/
  succeeds : ∀ op config slots slots', relation op config slots = (.ok (), slots') ↔
    ∃ attrs data thresholds result t, op = .multiThreshold attrs ∧
      slots = [data, thresholds, result] ∧ inferType data thresholds attrs config = .ok t ∧
      slots' = [data, thresholds, .tensor t]
  /-- Once it has succeeded it succeeds again, and changes nothing. -/
  repeats : ∀ op config slots slots', relation op config slots = (.ok (), slots') →
    relation op config slots' = (.ok (), slots')
  /-- It fails for the first of three reasons, and leaves the whole list as it was. -/
  fails : ∀ op config slots e slots', relation op config slots = (.error e, slots') ↔
    SlotFailure op config slots e ∧ slots' = slots
  /-- It defers exactly a call with slots for two operands of which one is no tensor. -/
  defers : ∀ op config slots,
    (∃ e slots', relation op config slots = (.error e, slots') ∧ e.isDeferred = true) ↔
      ∃ attrs data thresholds result, op = .multiThreshold attrs ∧
        slots = [data, thresholds, result] ∧
        ((∀ t, data ≠ .tensor t) ∨ ∀ t, thresholds ≠ .tensor t)

theorem thresholdRelation_succeeds_iff :
    thresholdRelation op config slots = (.ok (), slots') ↔
      ∃ attrs data thresholds result t, op = .multiThreshold attrs ∧
        slots = [data, thresholds, result] ∧ inferType data thresholds attrs config = .ok t ∧
        slots' = [data, thresholds, .tensor t] := by
  constructor
  · intro h
    obtain ⟨attrs, rfl⟩ := exists_attrs_of_thresholdRelation h (by simp)
    obtain ⟨data, thresholds, result, t, h⟩ := thresholdRelation_eq_ok_iff.1 h
    exact ⟨attrs, data, thresholds, result, t, rfl, h⟩
  · rintro ⟨attrs, data, thresholds, result, t, rfl, h⟩
    exact thresholdRelation_eq_ok_iff.2 ⟨data, thresholds, result, t, h⟩

/-- **Every registered variant types in place.** -/
theorem typesInPlace_of_registered {registry : Registry}
    (hregistry : registry.BuiltFrom OpDef.IsVariant) {name : String} {d : OpDef}
    (hd : registry.get? name = some d) : TypesInPlace d.relation := by
  rw [hregistry.relation_eq hd]
  constructor
  case succeeds =>
    intro op config slots slots'
    exact thresholdRelation_succeeds_iff
  case repeats =>
    intro op config slots slots' h
    obtain ⟨attrs, data, thresholds, _, t, hop, -, hinfer, rfl⟩ := thresholdRelation_succeeds_iff.1 h
    -- the operands are still there, so the rule is asked the same question
    exact thresholdRelation_succeeds_iff.2
      ⟨attrs, data, thresholds, .tensor t, t, hop, rfl, hinfer, rfl⟩
  case fails =>
    intro op config slots e slots'
    exact thresholdRelation_eq_error_iff
  case defers =>
    intro op config slots
    constructor
    · rintro ⟨e, slots', h, hdeferred⟩
      obtain ⟨attrs, rfl⟩ := exists_attrs_of_thresholdRelation h fun heq => by
        cases heq
        exact absurd hdeferred (by simp [TypeError.isDeferred])
      obtain ⟨data, thresholds, result, hslots, hoperands⟩ :=
        thresholdRelation_deferred_iff.1 ⟨e, slots', h, hdeferred⟩
      exact ⟨attrs, data, thresholds, result, rfl, hslots, hoperands⟩
    · rintro ⟨attrs, data, thresholds, result, rfl, h⟩
      exact thresholdRelation_deferred_iff.2 ⟨data, thresholds, result, h⟩

/-- A variant that asks for five inputs, so that its calls have six slots. -/
def OpDef.wideThreshold : OpDef :=
  { OpDef.multiThreshold with name := "WideThreshold", numInputs := 5 }

theorem typesInPlace_of_registered_wideThreshold :
    (Registry.builtin.register .wideThreshold).2.BuiltFrom OpDef.IsVariant ∧
    (Registry.builtin.register .wideThreshold).2.get? "WideThreshold" = some .wideThreshold ∧
    TypesInPlace OpDef.wideThreshold.relation := by
  have hregistry : (Registry.builtin.register .wideThreshold).2.BuiltFrom OpDef.IsVariant :=
    .register .builtin rfl
  have hd : (Registry.builtin.register .wideThreshold).2.get? "WideThreshold" =
      some .wideThreshold := by rfl
  exact ⟨hregistry, hd, typesInPlace_of_registered hregistry hd⟩

end Thresholding
