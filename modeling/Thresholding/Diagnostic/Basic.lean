import Thresholding.Graph.Basic

/-!
# Thresholding.Diagnostic.Basic

**Diagnostics**: what the typing pass has to say about a call.

A note is not a complaint. It tells that a call cannot be typed yet.
-/

namespace Thresholding

/-- How grave a diagnostic is. -/
inductive Severity
  /-- Something is wrong. -/
  | error
  /-- Something is left open. -/
  | note
  deriving Repr, DecidableEq

namespace Severity

/-- Whether a diagnostic of this severity reports an error. -/
def isError : Severity → Bool
  | error => true
  | note => false

/-- The word that starts the text of a diagnostic. -/
def text : Severity → String
  | error => "error"
  | note => "note"

end Severity

/-- A diagnostic. -/
structure Diagnostic where
  /-- How grave it is. -/
  severity : Severity
  /-- What it says. -/
  message : String
  /-- The node it is about, when known. -/
  node? : Option NodeId := none
  /-- Further remarks, such as how to mend the call. -/
  notes : List String := []
  deriving Repr, DecidableEq

namespace Diagnostic

/-- Whether it reports an error. -/
def isError (d : Diagnostic) : Bool := d.severity.isError

/-- The same diagnostic about a given node. -/
def atNode (d : Diagnostic) (id : NodeId) : Diagnostic := { d with node? := some id }

/-- The same diagnostic with one remark more. -/
def addNote (d : Diagnostic) (note : String) : Diagnostic := { d with notes := d.notes ++ [note] }

/-- The text of a diagnostic: severity, node and message on a line, and a line for each
remark. -/
def text (d : Diagnostic) : String :=
  let place :=
    match d.node? with
    | some id => "[" ++ NodeId.text id ++ "]"
    | none => ""
  d.severity.text ++ place ++ ": " ++ d.message
    ++ String.join (d.notes.map fun note => "\n  = note: " ++ note)

end Diagnostic

end Thresholding
