import Mathlib.Data.List.Induction
import Thresholding.Graph.Arena
import Thresholding.Proofs.Graph.Retyping

/-!
# Thresholding.Proofs.Graph.Arena

**The parts of an arena in step.**

As long as the stored names increase, the binary search finds the place of a name and of no other
(`Arena.indexOf?_eq_some_iff`). In an arena in step (`Arena.InStep`) that place is the name itself,
so the arena is the one that stores its graph (`Arena.InStep.toArena_toGraph`). Then there is one
equation for each operation: on the arena that stores a graph it answers as on the graph, and what
it leaves is the arena that stores the graph it leaves. That the operation keeps the parts in step
is read off this equation.
-/

namespace Thresholding

attribute [ext] StoredNode Arena

/-- A node whose type is forgotten. -/
def StoredNode.withoutType (node : StoredNode) : StoredNode := { node with type := .incomplete }

namespace Arena

variable {a : Arena} {id : NodeId}

/-! ### The search -/

/-- The names of the nodes increase strictly in the order in which they are stored. -/
def Increasing (nodes : Array StoredNode) : Prop :=
  ∀ (i j : Nat) (_ : i < nodes.size) (_ : j < nodes.size), i < j → nodes[i].id < nodes[j].id

/-- The greater name is that of the later node. -/
theorem Increasing.id_lt_iff {nodes : Array StoredNode} (h : Increasing nodes) {i j : Nat}
    (hi : i < nodes.size) (hj : j < nodes.size) : nodes[i].id < nodes[j].id ↔ i < j := by
  constructor
  · intro hlt
    rcases Nat.lt_trichotomy i j with hbefore | rfl | hbehind
    · exact hbefore
    · exact absurd hlt (Nat.lt_irrefl _)
    · exact absurd hlt (Nat.lt_asymm (h j i hj hi hbehind))
  · exact h i j hi hj

/-- **The search ends at the node it is for**, if that is among those that are left. -/
theorem bisect_eq {nodes : Array StoredNode} (h : Increasing nodes) {place : Fin nodes.size}
    (hid : nodes[place].id = id) {first size : Nat} {hsize : 0 < size}
    {hbound : first + size ≤ nodes.size} (hfirst : first ≤ place) (hlast : place < first + size) :
    bisect nodes id first size hsize hbound = place := by
  -- whichever half is taken, the place is in it
  fun_induction bisect nodes id first size hsize hbound with
  | case1 first size _ _ _ hmiddle hbefore ih =>
      rw [← hid] at hbefore
      have hplace : place < first + size / 2 := (h.id_lt_iff place.2 hmiddle).1 hbefore
      exact ih hfirst (by omega)
  | case2 first size _ _ _ hmiddle hbefore ih =>
      rw [← hid] at hbefore
      have hplace : first + size / 2 ≤ place :=
        Nat.le_of_not_lt fun hlt => hbefore ((h.id_lt_iff place.2 hmiddle).2 hlt)
      exact ih hplace (by omega)
  | case3 => exact Fin.ext (by dsimp only; omega)

/-- A name is found at its place, and no other name is. -/
theorem indexOf?_eq_some_iff (h : Increasing a.nodes) {i : Nat} {hi : i < a.nodes.size} :
    a.indexOf? id = some ⟨i, hi⟩ ↔ a.nodes[i].id = id := by
  unfold indexOf?
  rw [dif_pos (Nat.zero_lt_of_lt hi)]
  dsimp only
  constructor
  · intro hfound
    split at hfound
    · next hid =>
        simp only [Option.some.inj hfound] at hid
        exact hid
    · exact absurd hfound (by simp)
  · intro hid
    have hplace : bisect a.nodes id 0 a.nodes.size (Nat.zero_lt_of_lt hi) (by omega) = ⟨i, hi⟩ :=
      bisect_eq h hid (Nat.zero_le _) (by simpa using hi)
    simp only [hplace, Fin.getElem_fin, hid, if_pos]

/-! ### The three parts -/

/-- The parts of an arena agree. -/
structure InStep (a : Arena) : Prop where
  /-- The name of a node is its position. -/
  id_eq : ∀ (i : Nat) (_ : i < a.nodes.size), a.nodes[i].id = i
  /-- The next name is the number of nodes. -/
  nextId_eq : a.nextId = a.size
  /-- Values are kept for names of nodes only. -/
  payload?_eq_none : ∀ id, a.size ≤ id → a.payload? id = none

theorem InStep.increasing (h : a.InStep) : Increasing a.nodes := by
  intro i j hi hj hlt
  rw [h.id_eq i hi, h.id_eq j hj]
  exact hlt

/-- A search in an arena in step finds the node at the position that is searched for. -/
theorem InStep.indexOf?_eq (h : a.InStep) (id : NodeId) :
    a.indexOf? id = if hid : id < a.size then some ⟨id, hid⟩ else none := by
  split
  · next hid => exact (indexOf?_eq_some_iff h.increasing).2 (h.id_eq id hid)
  · next hid =>
      refine Option.eq_none_iff_forall_ne_some.2 fun place hplace => hid ?_
      rw [← (indexOf?_eq_some_iff h.increasing).1 hplace, h.id_eq place place.2]
      exact place.2

theorem InStep.node?_eq (h : a.InStep) (id : NodeId) : a.node? id = a.nodes[id]? := by
  rw [node?, h.indexOf?_eq]
  split
  · next hid => exact (Array.getElem?_eq_getElem hid).symm
  · next hid => exact (Array.getElem?_eq_none (Nat.not_lt.1 hid)).symm

/-- A type is recorded at the position that is searched for, if it is one. -/
theorem InStep.setType_eq (h : a.InStep) (id : NodeId) (type : ExprType) :
    a.setType id type =
      if id < a.size then
        (true, { a with nodes := a.nodes.modify id fun node => { node with type } })
      else (false, a) := by
  rw [setType, h.indexOf?_eq]
  by_cases hid : id < a.size
  · rw [dif_pos hid, if_pos hid]
  · rw [dif_neg hid, if_neg hid]

/-- Two arenas differ at most in the types of their nodes. -/
structure SameButTypes (a a' : Arena) : Prop where
  /-- There are the same nodes under the same names, with the same operators and inputs. -/
  nodes_eq : a'.nodes.map StoredNode.withoutType = a.nodes.map StoredNode.withoutType
  /-- The next name is the same. -/
  nextId_eq : a'.nextId = a.nextId
  /-- The values are the same. -/
  payloads_eq : a'.payloads = a.payloads

/-- What storing a node adds to an arena. -/
def store (a : Arena) (node : Node) : Arena where
  nodes := a.nodes.push (node.stored a.nextId)
  nextId := a.nextId + 1
  payloads := fun id => if id = a.nextId then node.payload? else a.payload? id

end Arena

/-! ### The arena that stores a graph -/

namespace Graph

variable {g : Graph} {id : NodeId}

theorem inStep_toArena (g : Graph) : g.toArena.InStep := by
  constructor
  case id_eq => simp [toArena, Node.stored]
  case nextId_eq => simp [toArena, Arena.size, size]
  case payload?_eq_none =>
    intro id hid
    have hsize : g.size ≤ id := by simpa [toArena, Arena.size, size] using hid
    change g.payload? id = none
    rw [payload?, node?_eq_none_iff.2 hsize]
    rfl

theorem node?_toArena (g : Graph) (id : NodeId) :
    g.toArena.node? id = (g.node? id).map (Node.stored id) := by
  rw [(inStep_toArena g).node?_eq, toArena, Array.getElem?_mapIdx]
  rfl

theorem typeOf_toArena (g : Graph) (id : NodeId) : g.toArena.typeOf id = g.typeOf id := by
  rw [Arena.typeOf, node?_toArena, typeOf]
  cases g.node? id <;> rfl

@[simp] theorem toGraph_toArena (g : Graph) : g.toArena.toGraph = g := by
  refine ext_node? fun id => ?_
  rw [node?, Arena.toGraph, Array.getElem?_map, toArena, Array.getElem?_mapIdx, Option.map_map]
  change Option.map _ (g.node? id) = g.node? id
  cases hnode : g.node? id with
  | none => rfl
  | some node => simp [Arena.payload?, Node.stored, payload?, hnode]

/-- The calls are listed by the names that are stored. -/
theorem calls_toArena (g : Graph) : g.toArena.calls = g.calls := by
  have hcalls (l : List Node) :
      ((l.mapIdx Node.stored).filter fun node => !node.op.isSource).map (·.id) =
        (List.range l.length).filter fun id => l[id]?.any fun node => !node.op.isSource := by
    induction l using List.reverseRecOn with
    | nil => rfl
    | append_singleton l node ih =>
        have hbefore : (List.range l.length).filter (fun id =>
              (l ++ [node])[id]?.any fun node => !node.op.isSource) =
            (List.range l.length).filter fun id => l[id]?.any fun node => !node.op.isSource := by
          apply List.filter_congr
          intro id hid
          rw [List.getElem?_append_left (List.mem_range.1 hid)]
        rw [List.mapIdx_concat, List.filter_append, List.map_append, ih, List.length_append,
          List.length_singleton, List.range_succ, List.filter_append, hbefore]
        congr 1
        cases hsource : node.op.isSource <;> simp [Node.stored, hsource]
  rw [Arena.calls, toArena, Array.toList_mapIdx, hcalls, calls]
  simp [size, node?]

/-! ### What is done to it -/

@[simp] theorem toArena_empty : empty.toArena = Arena.empty := by
  have hpayloads : empty.payload? = fun _ => none := rfl
  rw [toArena, hpayloads]
  rfl

theorem payload?_add (g : Graph) (node : Node) (id : NodeId) :
    (g.add node).2.payload? id = if id = g.size then node.payload? else g.payload? id := by
  rw [payload?, node?_add]
  split <;> rfl

/-- Adding a node stores it under the next name. -/
theorem toArena_add (g : Graph) (node : Node) : (g.add node).2.toArena = g.toArena.store node := by
  apply Arena.ext
  case nodes => exact Array.mapIdx_push
  case nextId => exact size_add g node
  case payloads => exact funext (payload?_add g node)

/-- A node without values leaves the values as they are. -/
theorem add_toArena (g : Graph) (op : Op) (inputs : List NodeId) (type : ExprType) :
    g.toArena.add op inputs type =
      (g.size, (g.add { op, inputs, type, payload? := none }).2.toArena) := by
  rw [toArena_add]
  refine Prod.ext rfl (Arena.ext rfl rfl (funext fun id => ?_))
  change g.payload? id = if id = g.size then none else g.payload? id
  split
  · next hid => exact (inStep_toArena g).payload?_eq_none id (by simp [toArena, Arena.size, hid, size])
  · rfl

theorem addVar_toArena (g : Graph) (name : String) (type : ExprType) :
    g.toArena.addVar name type = ((g.addVar name type).1, (g.addVar name type).2.toArena) :=
  add_toArena g _ _ _

theorem addCall_toArena (g : Graph) (op : Op) (inputs : List NodeId) :
    g.toArena.addCall op inputs = ((g.addCall op inputs).1, (g.addCall op inputs).2.toArena) :=
  add_toArena g _ _ _

theorem addConstant_toArena (g : Graph) (values : Buffer) (type : ExprType) :
    g.toArena.addConstant values type =
      ((g.addConstant values type).1, (g.addConstant values type).2.toArena) := by
  rw [addConstant, toArena_add]
  rfl

theorem payload?_setType (g : Graph) (id other : NodeId) (type : ExprType) :
    (g.setType id type).2.payload? other = g.payload? other := by
  rw [payload?, node?_setType, payload?]
  split
  · cases g.node? other <;> rfl
  · rfl

/-- A type is recorded on the node that the search finds. -/
theorem setType_toArena (g : Graph) (id : NodeId) (type : ExprType) :
    g.toArena.setType id type = ((g.setType id type).1, (g.setType id type).2.toArena) := by
  have hsize : g.toArena.size = g.size := by simp [Arena.size, toArena, size]
  rw [(inStep_toArena g).setType_eq, hsize]
  by_cases hid : id < g.size
  · rw [if_pos hid]
    have hanswer : (g.setType id type).1 = true := decide_eq_true hid
    refine Prod.ext hanswer.symm (Arena.ext ?_ ?_ ?_)
    case refine_1 =>
      refine Array.ext_getElem? fun place => ?_
      simp only [toArena, setType, Array.getElem?_modify, Array.getElem?_mapIdx]
      split
      · cases g.nodes[place]? <;> rfl
      · rfl
    case refine_2 => exact (size_setType g id type).symm
    case refine_3 => exact funext fun other => (payload?_setType g id other type).symm
  · rw [if_neg hid, setType_of_size_le (Nat.not_lt.1 hid)]

/-- What differs in types at most is stored with types at most different. -/
theorem SameButTypes.toArena {g g' : Graph} (h : g.SameButTypes g') :
    g.toArena.SameButTypes g'.toArena := by
  constructor
  case nodes_eq =>
    refine Array.ext_getElem? fun id => ?_
    have hnode : g'.nodes[id]? = g.nodes[id]?.map fun node =>
      { node with type := g'.typeOf id } := h id
    simp only [Graph.toArena, Array.getElem?_map, Array.getElem?_mapIdx, hnode]
    cases g.nodes[id]? <;> rfl
  case nextId_eq => exact h.size_eq
  case payloads_eq =>
    funext id
    change g'.payload? id = g.payload? id
    rw [payload?, payload?, h id]
    cases g.node? id <;> rfl

end Graph

theorem Arena.inStep_empty : Arena.empty.InStep := by
  rw [← Graph.toArena_empty]
  exact Graph.inStep_toArena _

/-- What a name stands for in the graph is what the search finds, with the values that are kept. -/
theorem Arena.InStep.node?_toGraph {a : Arena} (h : a.InStep) (id : NodeId) :
    a.toGraph.node? id = (a.node? id).map fun node =>
      { op := node.op, inputs := node.inputs, type := node.type, payload? := a.payload? id } := by
  rw [h.node?_eq, Graph.node?, Arena.toGraph, Array.getElem?_map]
  by_cases hid : id < a.nodes.size
  · rw [Array.getElem?_eq_getElem hid, Option.map_some, Option.map_some, h.id_eq id hid]
  · rw [Array.getElem?_eq_none (Nat.not_lt.1 hid)]
    rfl

theorem Arena.InStep.payload?_toGraph {a : Arena} (h : a.InStep) (id : NodeId) :
    a.toGraph.payload? id = a.payload? id := by
  rw [Graph.payload?, h.node?_toGraph, h.node?_eq]
  by_cases hid : id < a.nodes.size
  · rw [Array.getElem?_eq_getElem hid]
    rfl
  · rw [Array.getElem?_eq_none (Nat.not_lt.1 hid), h.payload?_eq_none id (Nat.not_lt.1 hid)]
    rfl

/-- An arena in step is the one that stores its graph. -/
theorem Arena.InStep.toArena_toGraph {a : Arena} (h : a.InStep) : a.toGraph.toArena = a := by
  apply Arena.ext
  case nodes =>
    refine Array.ext_getElem? fun id => ?_
    rw [Graph.toArena, Array.getElem?_mapIdx]
    change Option.map _ (a.toGraph.node? id) = _
    rw [h.node?_toGraph, h.node?_eq, Option.map_map]
    by_cases hid : id < a.nodes.size
    · rw [Array.getElem?_eq_getElem hid, Option.map_some]
      exact congrArg some (StoredNode.ext (h.id_eq id hid).symm rfl rfl rfl)
    · rw [Array.getElem?_eq_none (Nat.not_lt.1 hid)]
      rfl
  case nextId => simp [Graph.toArena, Graph.size, Arena.toGraph, h.nextId_eq, Arena.size]
  case payloads => exact funext h.payload?_toGraph

end Thresholding
