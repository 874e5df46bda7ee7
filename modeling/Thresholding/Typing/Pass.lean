import Thresholding.Diagnostic.Log
import Thresholding.Registry.Basic

/-!
# Thresholding.Typing.Pass

The **typing pass** over a graph.

Design points:

* The calls are typed once each, in the order of their names, and a type that is found is
  recorded at once: a later call sees it, an earlier one does not until the next pass.
* A call that is not typed gets one diagnostic, at its node. Its type stays what it was.
* An input that names no node has an incomplete type like any other that is not inferred.
-/

namespace Thresholding

/-- How far a pass has come. -/
structure PassState where
  /-- The graph with the types found so far. -/
  graph : Graph
  /-- The number of calls that were typed. -/
  resolved : Nat
  /-- The diagnostics, those of earlier passes first. -/
  log : DiagnosticLog

/-- What is reported for a name without a node. -/
def unknownNode (id : NodeId) : Diagnostic :=
  { severity := .error, message := "unknown node " ++ NodeId.text id }

/-- The type that the registered operator finds in the slots of a node, or what there is to
report. -/
def Registry.typeSlots (registry : Registry) (config : Config) (op : Op) (inputs : List NodeId)
    (slots : List ExprType) : Except Diagnostic ExprType :=
  match op.name? with
  | none => .error { severity := .error, message := "source node has no type relation" }
  | some name =>
    match registry.get? name with
    | none => .error { severity := .error, message := s!"operator `{name}` is not registered" }
    | some d =>
      if inputs.length = d.numInputs then
        match d.relation op config slots with
        | (.ok (), slots) => .ok (slots.getLastD .incomplete)
        | (.error e, _) => .error e.toDiagnostic
      else
        .error {
          severity := .error
          message := (RegistryError.arity name d.numInputs inputs.length).message }

namespace Graph

/-- The slots of a call: the types of its inputs, and an open slot for its own. -/
def slots (g : Graph) (node : Node) : List ExprType := node.inputs.map g.typeOf ++ [.incomplete]

/-- The type that the registered operator gives a node, or what there is to report. -/
def typeNode (registry : Registry) (config : Config) (g : Graph) (id : NodeId) :
    Except Diagnostic ExprType :=
  match g.node? id with
  | none => .error (unknownNode id)
  | some node => registry.typeSlots config node.op node.inputs (g.slots node)

/-- Type one call. -/
def typeCall (registry : Registry) (config : Config) (s : PassState) (id : NodeId) : PassState :=
  match s.graph.typeNode registry config id with
  | .ok type => { s with graph := (s.graph.setType id type).2, resolved := s.resolved + 1 }
  | .error d => { s with log := s.log.add (d.atNode id) }

/-- Type every call of a graph, appending to a log. -/
def typeCheck (g : Graph) (registry : Registry) (config : Config) (log : DiagnosticLog) :
    PassState :=
  g.calls.foldl (typeCall registry config) { graph := g, resolved := 0, log }

end Graph

/-! ### Typing what is stored

The same pass over an arena. It reads and writes types through the lookup by name. -/

/-- How far a pass over an arena has come. -/
structure StoredPass where
  /-- The arena with the types found so far. -/
  arena : Arena
  /-- The number of calls that were typed. -/
  resolved : Nat
  /-- The diagnostics, those of earlier passes first. -/
  log : DiagnosticLog

namespace Arena

/-- The slots of a call: the types of its inputs, and an open slot for its own. -/
def slots (a : Arena) (node : StoredNode) : List ExprType :=
  node.inputs.map a.typeOf ++ [.incomplete]

/-- The type that the registered operator gives a node, or what there is to report. -/
def typeNode (registry : Registry) (config : Config) (a : Arena) (id : NodeId) :
    Except Diagnostic ExprType :=
  match a.node? id with
  | none => .error (unknownNode id)
  | some node => registry.typeSlots config node.op node.inputs (a.slots node)

/-- Type one call. -/
def typeCall (registry : Registry) (config : Config) (s : StoredPass) (id : NodeId) :
    StoredPass :=
  match s.arena.typeNode registry config id with
  | .ok type => { s with arena := (s.arena.setType id type).2, resolved := s.resolved + 1 }
  | .error d => { s with log := s.log.add (d.atNode id) }

/-- Type every call of an arena, appending to a log. -/
def typeCheck (a : Arena) (registry : Registry) (config : Config) (log : DiagnosticLog) :
    StoredPass :=
  a.calls.foldl (typeCall registry config) { arena := a, resolved := 0, log }

end Arena

end Thresholding
