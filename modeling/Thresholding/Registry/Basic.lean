import Thresholding.Registry.OpDef

/-!
# Thresholding.Registry.Basic

The **operator registry**: a table from names to definitions that a host owns and hands to
whatever needs it.

Design points:

* The first definition of a name stays. Registering another is refused.
* Definitions are kept in the order of their names, which is that of their UTF-8 bytes. The
  order is part of the type: two registries with the same definitions are the same, however
  they came to be.
-/

namespace Thresholding

/-- A table of operator definitions. -/
structure Registry where
  /-- The definitions, in the order of their names. -/
  defs : List OpDef
  /-- The names increase strictly. -/
  sorted : defs.Pairwise (·.name < ·.name)

namespace Registry

/-- The registry without definitions. -/
def empty : Registry := ⟨[], .nil⟩

/-- The registry with the operators of this library. -/
def builtin : Registry := ⟨[.multiThreshold], List.pairwise_singleton _ _⟩

instance : Inhabited Registry := ⟨empty⟩

/-! ### Looking up -/

/-- The definition of a name. -/
def get? (r : Registry) (name : String) : Option OpDef := r.defs.find? (·.name == name)

/-- The registered names, in order. -/
def names (r : Registry) : List String := r.defs.map (·.name)

/-- The number of registered names. -/
def size (r : Registry) : Nat := r.defs.length

/-! ### Registering -/

/-- Put a definition where its name belongs. -/
def insertDef (d : OpDef) : List OpDef → List OpDef
  | [] => [d]
  | e :: rest => if d.name < e.name then d :: e :: rest else e :: insertDef d rest

theorem mem_insertDef {d e : OpDef} {defs : List OpDef} :
    e ∈ insertDef d defs ↔ e = d ∨ e ∈ defs := by
  induction defs with
  | nil => simp [insertDef]
  | cons first rest ih =>
    simp only [insertDef]
    split
    · simp
    · simp only [List.mem_cons, ih]
      exact or_left_comm

/-- Names that do not stand before one another are the same, so a definition of a new name
goes into the order. -/
theorem sorted_insertDef {d : OpDef} {defs : List OpDef}
    (hsorted : defs.Pairwise (·.name < ·.name)) (hnew : ∀ e ∈ defs, e.name ≠ d.name) :
    (insertDef d defs).Pairwise (·.name < ·.name) := by
  induction defs with
  | nil => exact List.pairwise_singleton _ _
  | cons first rest ih =>
    have hrest := List.pairwise_cons.1 hsorted
    simp only [insertDef]
    split
    · next hlt =>
      refine List.pairwise_cons.2 ⟨?_, hsorted⟩
      intro e he
      rcases List.mem_cons.1 he with rfl | he
      · exact hlt
      · exact String.lt_trans hlt (hrest.1 e he)
    · next hle =>
      refine List.pairwise_cons.2 ⟨?_, ih hrest.2 fun e he => hnew e (List.mem_cons_of_mem _ he)⟩
      intro e he
      rcases mem_insertDef.1 he with rfl | he
      · by_cases hlt : first.name < e.name
        · exact hlt
        · exact absurd (String.le_antisymm (String.not_lt.1 hle) (String.not_lt.1 hlt))
            (hnew first List.mem_cons_self)
      · exact hrest.1 e he

/-- Register a definition under its name, unless the name is taken. The answer comes with
the registry as it is then. -/
def register (r : Registry) (d : OpDef) : Except RegistryError Unit × Registry :=
  if h : ∃ e ∈ r.defs, e.name = d.name then (.error (.duplicate d.name), r)
  else
    (.ok (), ⟨insertDef d r.defs, sorted_insertDef r.sorted fun e he heq => h ⟨e, he, heq⟩⟩)

/-! ### Building calls -/

/-- Build a call of the operator of a given name. -/
def make (r : Registry) (name : String) (a : Arena) (inputs : List NodeId) (op : Op) :
    Except RegistryError NodeId × Arena :=
  match r.get? name with
  | some d => d.make a inputs op
  | none => (.error (.unknownOp name), a)

end Registry

end Thresholding
