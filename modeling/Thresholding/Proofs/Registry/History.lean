import Mathlib.Data.Finset.Card
import Mathlib.Data.Finset.Dedup
import Thresholding.Proofs.Registry.Building
import Thresholding.Proofs.Text.ByteOrder

/-!
# Thresholding.Proofs.Registry.History

**What a registry keeps of how it came to be**: the first definition of each name.

A registry is determined by what it finds under each name (`ext_get?`), and one registration adds
to that what was not found before (`get?_register`). So after any sequence of registrations a name
has the first definition that was registered under it, and an order of registrations in which no
name comes twice makes no difference.
-/

namespace Thresholding

namespace Registry

variable {r r' : Registry} {d e : OpDef} {ds ds' : List OpDef} {name : String}

/-! ### A registry as a map -/

/-- Where no name comes twice, the definition of a name is found exactly if it is there. -/
theorem find?_name_eq_some_iff (h : (ds.map (·.name)).Nodup) :
    ds.find? (·.name == name) = some e ↔ e ∈ ds ∧ e.name = name := by
  induction ds with
  | nil => simp
  | cons d ds ih =>
      rw [List.map_cons, List.nodup_cons] at h
      obtain ⟨hd, hds⟩ := h
      rw [List.mem_cons]
      by_cases hname : d.name = name
      · rw [List.find?_cons_of_pos (by simpa using hname), Option.some.injEq]
        refine ⟨fun heq => heq ▸ ⟨Or.inl rfl, hname⟩, fun ⟨hmem, he⟩ => ?_⟩
        refine (hmem.resolve_right fun hmem => hd ?_).symm
        exact List.mem_map.2 ⟨e, hmem, he.trans hname.symm⟩
      · rw [List.find?_cons_of_neg (by simpa using hname), ih hds]
        refine and_congr_left fun he => ⟨Or.inr, fun hmem => hmem.resolve_left ?_⟩
        rintro rfl
        exact hname he

/-- What is found under a name does not depend on the order of definitions with different names. -/
theorem find?_name_perm (hperm : ds.Perm ds') (h : (ds.map (·.name)).Nodup) :
    ds'.find? (·.name == name) = ds.find? (·.name == name) := by
  have h' : (ds'.map (·.name)).Nodup := (hperm.map _).nodup h
  apply Option.ext
  intro e
  rw [find?_name_eq_some_iff h, find?_name_eq_some_iff h', hperm.mem_iff]

theorem names_nodup (r : Registry) : r.names.Nodup :=
  List.pairwise_map.2 (r.sorted.imp fun hlt => ne_of_lt hlt)

theorem get?_eq_some_iff : r.get? name = some e ↔ e ∈ r.defs ∧ e.name = name :=
  find?_name_eq_some_iff r.names_nodup

theorem get?_eq_none_iff : r.get? name = none ↔ name ∉ r.names := by
  rw [mem_names_iff, Option.eq_none_iff_forall_ne_some]
  exact not_exists.symm

/-- **A registry is determined by its lookups.** -/
theorem ext_get? (h : ∀ name, r.get? name = r'.get? name) : r = r' := by
  have hmem : ∀ e, e ∈ r.defs ↔ e ∈ r'.defs := by
    intro e
    have he := congrArg (· = some e) (h e.name)
    simpa only [get?_eq_some_iff, and_true, eq_iff_iff] using he
  have hperm : r.defs.Perm r'.defs :=
    (List.perm_ext_iff_of_nodup r.names_nodup.of_map r'.names_nodup.of_map).2 hmem
  have hdefs : r.defs = r'.defs := by
    refine hperm.eq_of_pairwise (fun a b _ _ hab hba => ?_) r.sorted r'.sorted
    exact absurd hba (String.lt_asymm hab)
  cases r
  cases r'
  congr

/-! ### One registration -/

/-- **What a registration does**: it is refused if the name is taken, or else the definition is put
in its place. -/
theorem register_cases (r : Registry) (d : OpDef) :
    d.name ∈ r.names ∧ r.register d = (.error (.duplicate d.name), r) ∨
    d.name ∉ r.names ∧ (r.register d).1 = .ok () ∧ (r.register d).2.defs = insertDef d r.defs := by
  have hnames : d.name ∈ r.names ↔ ∃ e ∈ r.defs, e.name = d.name := List.mem_map
  rw [hnames]
  unfold register
  by_cases h : ∃ e ∈ r.defs, e.name = d.name
  · rw [dif_pos h]
    exact Or.inl ⟨h, rfl⟩
  · rw [dif_neg h]
    exact Or.inr ⟨h, rfl, rfl⟩

theorem register_of_mem (h : d.name ∈ r.names) :
    r.register d = (.error (.duplicate d.name), r) := by
  rcases r.register_cases d with ⟨-, heq⟩ | ⟨hnew, -⟩
  · exact heq
  · exact absurd h hnew

theorem register_of_notMem (h : d.name ∉ r.names) :
    (r.register d).1 = .ok () ∧ (r.register d).2.defs = insertDef d r.defs := by
  rcases r.register_cases d with ⟨hmem, -⟩ | ⟨-, heq⟩
  · exact absurd hmem h
  · exact heq

/-- A registration is refused exactly if the name is taken, and as a duplicate. -/
theorem register_eq_error_iff {error : RegistryError} : (r.register d).1 = .error error ↔
    error = .duplicate d.name ∧ d.name ∈ r.names := by
  rcases r.register_cases d with ⟨hmem, heq⟩ | ⟨hnew, hok, -⟩
  · rw [heq]
    simp [hmem, eq_comm]
  · rw [hok]
    simp [hnew]

/-- A registration adds the definition to what is found, behind what was found before. -/
theorem get?_register (r : Registry) (d : OpDef) (name : String) :
    (r.register d).2.get? name = (r.get? name).or ([d].find? (·.name == name)) := by
  by_cases hmem : d.name ∈ r.names
  · rw [register_of_mem hmem]
    by_cases hname : d.name = name
    · obtain ⟨e, he⟩ := mem_names_iff.1 (hname ▸ hmem)
      rw [he, Option.some_or]
    · rw [List.find?_cons_of_neg (by simpa using hname), List.find?_nil, Option.or_none]
  · obtain ⟨-, hdefs⟩ := register_of_notMem hmem
    apply Option.ext
    intro e
    rw [get?_eq_some_iff, hdefs, mem_insertDef, Option.or_eq_some_iff, get?_eq_some_iff,
      find?_name_eq_some_iff (by simp), List.mem_singleton, or_comm, or_and_right]
    refine or_congr_right ⟨fun h => ⟨?_, h⟩, fun h => h.2⟩
    obtain ⟨rfl, rfl⟩ := h
    exact get?_eq_none_iff.2 hmem

theorem mem_names_register : name ∈ (r.register d).2.names ↔ name ∈ r.names ∨ d.name = name := by
  rw [← not_iff_not, ← get?_eq_none_iff, get?_register, Option.or_eq_none_iff, get?_eq_none_iff,
    not_or]
  simp

/-! ### A sequence of registrations -/

/-- What a registry comes to when definitions are registered one after the other. -/
def registerAll (r : Registry) (ds : List OpDef) : Registry :=
  ds.foldl (fun r d => (r.register d).2) r

/-- Those of the definitions that are accepted then. -/
def accepted (r : Registry) : List OpDef → List OpDef
  | [] => []
  | d :: ds =>
    match r.register d with
    | (.ok _, r) => d :: r.accepted ds
    | (.error _, r) => r.accepted ds

@[simp] theorem registerAll_nil (r : Registry) : r.registerAll [] = r := rfl

@[simp] theorem registerAll_cons (r : Registry) (d : OpDef) (ds : List OpDef) :
    r.registerAll (d :: ds) = (r.register d).2.registerAll ds := rfl

theorem accepted_cons_of_mem (h : d.name ∈ r.names) : r.accepted (d :: ds) = r.accepted ds := by
  rw [accepted, register_of_mem h]

theorem accepted_cons_of_notMem (h : d.name ∉ r.names) :
    r.accepted (d :: ds) = d :: (r.register d).2.accepted ds := by
  rw [accepted]
  obtain ⟨hok, -⟩ := register_of_notMem h
  split
  · next heq => rw [heq]
  · next heq => rw [heq] at hok; exact absurd hok (by simp)

/-- **The first definition stays**: it is the one that was there, or else the first one of the name
that is registered. -/
theorem get?_registerAll (r : Registry) (ds : List OpDef) (name : String) :
    (r.registerAll ds).get? name = (r.defs ++ ds).find? (·.name == name) := by
  rw [List.find?_append]
  change _ = (r.get? name).or _
  induction ds generalizing r with
  | nil => rw [registerAll_nil, List.find?_nil, Option.or_none]
  | cons d ds ih =>
      rw [registerAll_cons, ih, get?_register, Option.or_assoc, ← List.find?_append,
        List.singleton_append]

/-- The definitions that are refused are not found. -/
theorem find?_accepted (r : Registry) (ds : List OpDef) (name : String) :
    (r.get? name).or ((r.accepted ds).find? (·.name == name)) =
      (r.get? name).or (ds.find? (·.name == name)) := by
  induction ds generalizing r with
  | nil => rfl
  | cons d ds ih =>
      have hstep : (r.get? name).or ((d :: ds).find? (·.name == name)) =
          ((r.register d).2.get? name).or (ds.find? (·.name == name)) := by
        rw [get?_register, Option.or_assoc, ← List.find?_append, List.singleton_append]
      rw [hstep, ← ih]
      by_cases hmem : d.name ∈ r.names
      · rw [accepted_cons_of_mem hmem, register_of_mem hmem]
      · rw [accepted_cons_of_notMem hmem, get?_register, Option.or_assoc, ← List.find?_append,
          List.singleton_append]

/-- Of definitions with different names those are accepted whose names were not taken before. -/
theorem accepted_eq_filter (h : (ds.map (·.name)).Nodup) :
    r.accepted ds = ds.filter fun d => decide (d.name ∉ r.names) := by
  induction ds generalizing r with
  | nil => rfl
  | cons d ds ih =>
      rw [List.map_cons, List.nodup_cons] at h
      obtain ⟨hd, hds⟩ := h
      by_cases hmem : d.name ∈ r.names
      · rw [accepted_cons_of_mem hmem, ih hds, List.filter_cons_of_neg (by simpa using hmem)]
      · rw [accepted_cons_of_notMem hmem, ih hds, List.filter_cons_of_pos (by simpa using hmem)]
        refine congrArg _ (List.filter_congr fun e he => ?_)
        have hne : d.name ≠ e.name := fun heq => hd (List.mem_map.2 ⟨e, he, heq.symm⟩)
        simp [mem_names_register, hne]

/-- The first definition of a name is accepted, so the definitions that are refused do not count. -/
theorem get?_registerAll_accepted (r : Registry) (ds : List OpDef) (name : String) :
    (r.registerAll ds).get? name = (r.defs ++ r.accepted ds).find? (·.name == name) := by
  rw [get?_registerAll, List.find?_append, List.find?_append]
  exact (find?_accepted r ds name).symm

/-- A registry that finds what a list of definitions has under each name has their names. -/
theorem mem_names_iff_of_get? (h : ∀ name, r.get? name = ds.find? (·.name == name)) :
    name ∈ r.names ↔ ∃ d ∈ ds, d.name = name := by
  rw [← not_iff_not, ← get?_eq_none_iff, h, List.find?_eq_none]
  simp

theorem size_registerAll (r : Registry) (ds : List OpDef) :
    (r.registerAll ds).size = ((r.defs ++ ds).map (·.name)).dedup.length := by
  have hnames : (r.registerAll ds).names.toFinset = ((r.defs ++ ds).map (·.name)).toFinset := by
    ext name
    rw [List.mem_toFinset, List.mem_toFinset, mem_names_iff_of_get? (get?_registerAll r ds),
      List.mem_map]
  rw [← List.card_toFinset, ← hnames, List.toFinset_card_of_nodup (names_nodup _), names,
    List.length_map, size]

/-- **The order of registrations makes no difference** if no name comes twice. -/
theorem registerAll_perm (hperm : ds.Perm ds') (h : (ds.map (·.name)).Nodup) :
    r.registerAll ds' = r.registerAll ds := by
  apply ext_get?
  intro name
  rw [get?_registerAll, get?_registerAll, List.find?_append, List.find?_append,
    find?_name_perm hperm h]

/-! ### The history -/

/-- What a registry is after definitions have been registered, one after the other, with a registry
to start from. -/
structure KeepsFirst (start : Registry) (ds : List OpDef) : Prop where
  /-- One registration more is refused exactly if there is a definition of its name, and it is
  refused as a duplicate. -/
  refused_iff : ∀ d e, ((start.registerAll ds).register d).1 = .error e ↔
    e = .duplicate d.name ∧ d.name ∈ (start.registerAll ds).names
  /-- That leaves the registry alone. -/
  unchanged : ∀ d e, ((start.registerAll ds).register d).1 = .error e →
    ((start.registerAll ds).register d).2 = start.registerAll ds
  /-- Under a name the first definition is found that has been accepted under it, if one has. -/
  first_accepted : ∀ name, (start.registerAll ds).get? name =
    (start.defs ++ start.accepted ds).find? (·.name == name)
  /-- It is the first one, accepted or not. -/
  first_registered : ∀ name, (start.registerAll ds).get? name =
    (start.defs ++ ds).find? (·.name == name)
  /-- It has the name that is looked up. -/
  name_eq : ∀ name d, (start.registerAll ds).get? name = some d → d.name = name
  /-- The names are those of the definitions that have been accepted. -/
  mem_names : ∀ name, name ∈ (start.registerAll ds).names ↔
    ∃ d ∈ start.defs ++ start.accepted ds, d.name = name
  /-- They increase strictly in the order of their bytes. -/
  increasing : (start.registerAll ds).names.Pairwise fun name name' => bytes name < bytes name'
  /-- They are as many as the registry counts. -/
  length_names : (start.registerAll ds).names.length = (start.registerAll ds).size
  /-- That is the number of different names. -/
  size_eq : (start.registerAll ds).size = ((start.defs ++ ds).map (·.name)).dedup.length
  /-- If no name comes twice, any other order leads to the same registry, with the same definitions
  accepted. -/
  reordered : ∀ ds', ds.Perm ds' → (ds.map (·.name)).Nodup →
    start.registerAll ds' = start.registerAll ds ∧ (start.accepted ds').Perm (start.accepted ds)

/-- **A registry keeps the first definition of each name**, whatever is registered and in whatever
order. The registry to start from may be any, the empty one and that of this library included. -/
theorem keepsFirst (start : Registry) (ds : List OpDef) : start.KeepsFirst ds where
  refused_iff _ _ := register_eq_error_iff
  unchanged d e h := by
    obtain ⟨-, hmem⟩ := register_eq_error_iff.1 h
    rw [register_of_mem hmem]
  first_accepted := get?_registerAll_accepted start ds
  first_registered name := get?_registerAll start ds name
  name_eq name d h := (get?_eq_some_iff.1 h).2
  mem_names _ := mem_names_iff_of_get? (get?_registerAll_accepted start ds)
  increasing := List.pairwise_map.2 ((start.registerAll ds).sorted.imp lt_iff_bytes_lt.1)
  length_names := List.length_map _
  size_eq := size_registerAll start ds
  reordered ds' hperm h := by
    refine ⟨registerAll_perm hperm h, ?_⟩
    rw [accepted_eq_filter h, accepted_eq_filter ((hperm.map _).nodup h)]
    exact (hperm.filter _).symm

/-- The second definition of a name and one of a built-in name are refused. A letter beyond ASCII
stands behind the others, whenever it is registered. -/
example :
    let named (name : String) (numInputs : Nat) : OpDef :=
      { OpDef.multiThreshold with name, numInputs }
    let ds := [named "é" 1, named "z" 2, named "é" 3, named Op.multiThresholdName 4]
    (builtin.registerAll ds).names = ["MultiThreshold", "z", "é"] ∧
      ((builtin.registerAll ds).get? "é").map (·.numInputs) = some 1 ∧
      (builtin.accepted ds).map (·.numInputs) = [1, 2] := by
  decide +kernel

end Registry

end Thresholding
