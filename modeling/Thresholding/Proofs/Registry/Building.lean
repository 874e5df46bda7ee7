import Thresholding.Proofs.Failure
import Thresholding.Proofs.Graph.Arena
import Thresholding.Proofs.Registry.Variants

/-!
# Thresholding.Proofs.Registry.Building

**Building calls through a registry** whose definitions build them as the thresholding operator
does.

Whether a call is built does not depend on the arena, and neither does what is added
(`Registry.BuiltFrom.make_spec`). Everything else follows from that, and so does what building does
to the graph that an arena stores (`Registry.BuiltFrom.makeIn_spec`).
-/

namespace Thresholding

/-- A node that is yet to be typed. -/
def Node.untyped (op : Op) (inputs : List NodeId) : Node :=
  { op, inputs, type := .incomplete, payload? := none }

theorem Op.isSource_eq_false_iff {op : Op} :
    op.isSource = false ↔ ∃ attrs, op = .multiThreshold attrs := by
  cases op <;> simp [isSource]

/-- A definition whose calls are built as those of the thresholding operator. -/
def OpDef.BuildsThresholdCalls (d : OpDef) : Prop := d.make = makeMultiThreshold

/-- A pair of inputs and a thresholding operator make a call, and nothing else does. -/
theorem makeMultiThreshold_spec (inputs : List NodeId) (op : Op) :
    (inputs.length = 2 ∧ op.isSource = false) ∧
      (∀ a, makeMultiThreshold a inputs op = (.ok a.nextId, (a.addCall op inputs).2)) ∨
    ¬ (inputs.length = 2 ∧ op.isSource = false) ∧
      ∃ e, ∀ a, makeMultiThreshold a inputs op = (.error e, a) := by
  match inputs, op with
  | [data, thresholds], .multiThreshold attrs => exact Or.inl ⟨⟨rfl, rfl⟩, fun a => rfl⟩
  | [_, _], .var _ => exact Or.inr ⟨by simp [Op.isSource], _, fun a => rfl⟩
  | [_, _], .constant => exact Or.inr ⟨by simp [Op.isSource], _, fun a => rfl⟩
  | [], _ => exact Or.inr ⟨by simp, _, fun a => rfl⟩
  | [_], _ => exact Or.inr ⟨by simp, _, fun a => rfl⟩
  | _ :: _ :: _ :: _, _ => exact Or.inr ⟨by simp, _, fun a => rfl⟩

namespace Registry

variable {registry : Registry}

theorem mem_names_iff {name : String} :
    name ∈ registry.names ↔ ∃ d, registry.get? name = some d := by
  rw [← Option.isSome_iff_exists, get?, List.find?_isSome, names, List.mem_map]
  simp

/-- When a registry builds a call: what is asked for has a definition, two inputs and a
thresholding operator. -/
def Buildable (registry : Registry) (name : String) (inputs : List NodeId) (op : Op) : Prop :=
  name ∈ registry.names ∧ inputs.length = 2 ∧ op.isSource = false

instance (registry : Registry) (name : String) (inputs : List NodeId) (op : Op) :
    Decidable (registry.Buildable name inputs op) :=
  inferInstanceAs (Decidable (_ ∧ _))

/-- **What a registry does** whose definitions build thresholding calls. -/
theorem BuiltFrom.make_spec (h : registry.BuiltFrom OpDef.BuildsThresholdCalls) (name : String)
    (inputs : List NodeId) (op : Op) :
    registry.Buildable name inputs op ∧
      (∀ a, registry.make name a inputs op = (.ok a.nextId, (a.addCall op inputs).2)) ∨
    ¬ registry.Buildable name inputs op ∧
      ∃ e, ∀ a, registry.make name a inputs op = (.error e, a) := by
  unfold make
  cases hd : registry.get? name with
  | none =>
      have hname : name ∉ registry.names := fun hmem => by
        obtain ⟨d, hd'⟩ := mem_names_iff.1 hmem
        rw [hd] at hd'
        exact absurd hd' (by simp)
      exact Or.inr ⟨fun hbuildable => hname hbuildable.1, _, fun a => rfl⟩
  | some d =>
      have hname : name ∈ registry.names := mem_names_iff.2 ⟨d, hd⟩
      have hmake : d.make = makeMultiThreshold :=
        h.forall_mem rfl d (List.mem_of_find?_eq_some hd)
      simp only [hmake]
      rcases makeMultiThreshold_spec inputs op with ⟨hcall, hadds⟩ | ⟨hcall, hrefuses⟩
      · exact Or.inl ⟨⟨hname, hcall⟩, hadds⟩
      · exact Or.inr ⟨fun hbuildable => hcall hbuildable.2, hrefuses⟩

/-- How a registry builds calls in an arena, and when. -/
structure BuildsIn (registry : Registry) (a : Arena) : Prop where
  /-- Building succeeds for a registered name, two inputs and a thresholding operator only. -/
  isOk_iff : ∀ name inputs op, (registry.make name a inputs op).1.isOk = true ↔
    name ∈ registry.names ∧ inputs.length = 2 ∧ ∃ attrs, op = .multiThreshold attrs
  /-- It is then what adding the call by hand is. -/
  eq_addMultiThreshold : ∀ name data thresholds attrs, name ∈ registry.names →
    registry.make name a [data, thresholds] (.multiThreshold attrs) =
      (.ok (a.addMultiThreshold data thresholds attrs).1,
        (a.addMultiThreshold data thresholds attrs).2)
  /-- Otherwise the arena is left alone. -/
  unchanged : ∀ name inputs op e, (registry.make name a inputs op).1 = .error e →
    (registry.make name a inputs op).2 = a

theorem BuiltFrom.buildsIn (h : registry.BuiltFrom OpDef.BuildsThresholdCalls) (a : Arena) :
    registry.BuildsIn a := by
  constructor
  case isOk_iff =>
    intro name inputs op
    rw [← Op.isSource_eq_false_iff]
    rcases h.make_spec name inputs op with ⟨hbuildable, hadds⟩ | ⟨hbuildable, e, hrefuses⟩
    · rw [hadds]
      exact iff_of_true rfl hbuildable
    · rw [hrefuses]
      exact iff_of_false (by simp) hbuildable
  case eq_addMultiThreshold =>
    intro name data thresholds attrs hname
    rcases h.make_spec name [data, thresholds] (.multiThreshold attrs) with
      ⟨-, hadds⟩ | ⟨hbuildable, -⟩
    · exact hadds a
    · exact absurd ⟨hname, rfl, rfl⟩ hbuildable
  case unchanged =>
    intro name inputs op e he
    rcases h.make_spec name inputs op with ⟨-, hadds⟩ | ⟨-, e', hrefuses⟩
    · rw [hadds] at he
      exact absurd he (by simp)
    · rw [hrefuses]

/-! ### In a graph -/

/-- Build a call in a graph, by way of the arena that stores it. -/
def makeIn (registry : Registry) (name : String) (g : Graph) (inputs : List NodeId) (op : Op) :
    Except RegistryError NodeId × Graph :=
  let (answer, a) := registry.make name g.toArena inputs op
  (answer, a.toGraph)

theorem BuiltFrom.makeIn_spec (h : registry.BuiltFrom OpDef.BuildsThresholdCalls) (name : String)
    (inputs : List NodeId) (op : Op) :
    registry.Buildable name inputs op ∧
      (∀ g, registry.makeIn name g inputs op = (.ok g.size, (g.add (.untyped op inputs)).2)) ∨
    ¬ registry.Buildable name inputs op ∧
      ∃ e, ∀ g, registry.makeIn name g inputs op = (.error e, g) := by
  rcases h.make_spec name inputs op with ⟨hbuildable, hadds⟩ | ⟨hbuildable, e, hrefuses⟩
  · refine Or.inl ⟨hbuildable, fun g => ?_⟩
    rw [makeIn, hadds, Graph.addCall_toArena]
    simp only [Graph.toGraph_toArena]
    rfl
  · refine Or.inr ⟨hbuildable, e, fun g => ?_⟩
    rw [makeIn, hrefuses]
    simp only [Graph.toGraph_toArena]

theorem BuiltFrom.make_toArena (h : registry.BuiltFrom OpDef.BuildsThresholdCalls) (name : String)
    (g : Graph) (inputs : List NodeId) (op : Op) :
    registry.make name g.toArena inputs op =
      ((registry.makeIn name g inputs op).1, (registry.makeIn name g inputs op).2.toArena) := by
  rcases h.make_spec name inputs op with ⟨-, hadds⟩ | ⟨-, e, hrefuses⟩
  · rw [makeIn, hadds, Graph.addCall_toArena]
    simp only [Graph.toGraph_toArena]
  · rw [makeIn, hrefuses]
    simp only [Graph.toGraph_toArena]

end Registry

end Thresholding
