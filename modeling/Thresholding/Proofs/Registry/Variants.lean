import Thresholding.Registry.Basic

/-!
# Thresholding.Proofs.Registry.Variants

The **registries that a host can build** from definitions of one kind, and what every
definition in them has in common.
-/

namespace Thresholding

/-- A variant of the thresholding operator: its name, its number of inputs and all else may
be others, but its calls are typed by the thresholding relation. -/
def OpDef.IsVariant (d : OpDef) : Prop := d.relation = thresholdRelation

namespace Registry

/-- Registries that come to be by registering definitions of a kind, one after the other,
with an empty registry or the registry of this library to start from. A registration that
is refused counts as well; it leaves the registry as it was. -/
inductive BuiltFrom (kind : OpDef → Prop) : Registry → Prop
  /-- The registry without definitions. -/
  | empty : BuiltFrom kind .empty
  /-- The registry with the operators of this library. -/
  | builtin : BuiltFrom kind .builtin
  /-- One registration more. -/
  | register {r : Registry} {d : OpDef} : BuiltFrom kind r → kind d →
      BuiltFrom kind (r.register d).2

theorem mem_defs_register {r : Registry} {d e : OpDef} (h : e ∈ (r.register d).2.defs) :
    e = d ∨ e ∈ r.defs := by
  unfold register at h
  split at h
  · exact Or.inr h
  · exact mem_insertDef.1 h

/-- What holds of the thresholding operator and of every definition that is registered holds
of every definition in the registry. -/
theorem BuiltFrom.forall_mem {kind : OpDef → Prop} {r : Registry} (h : BuiltFrom kind r)
    (hbuiltin : kind .multiThreshold) : ∀ d ∈ r.defs, kind d := by
  induction h with
  | empty => exact fun d hd => absurd hd List.not_mem_nil
  | builtin => exact fun d hd => List.mem_singleton.1 hd ▸ hbuiltin
  | register _ hkind ih =>
      intro e he
      rcases mem_defs_register he with rfl | he
      · exact hkind
      · exact ih e he

/-- In a registry of variants, the definition of any name has the thresholding relation. -/
theorem BuiltFrom.relation_eq {r : Registry} (h : r.BuiltFrom OpDef.IsVariant) {name : String}
    {d : OpDef} (hd : r.get? name = some d) : d.relation = thresholdRelation :=
  h.forall_mem rfl d (List.mem_of_find?_eq_some hd)

end Registry

end Thresholding
