import Thresholding.Diagnostic.Basic

/-!
# Thresholding.Diagnostic.Log

The **log of diagnostics** that typing passes append to. Whether any of them reports an
error is kept up to date as they come in.
-/

namespace Thresholding

/-- The diagnostics reported so far. -/
structure DiagnosticLog where
  /-- The diagnostics in the order they were reported. -/
  entries : List Diagnostic := []
  /-- Whether one of them reports an error. -/
  hasErrors : Bool := false
  deriving Repr, DecidableEq

namespace DiagnosticLog

/-- The log without diagnostics. -/
def empty : DiagnosticLog := {}

instance : Inhabited DiagnosticLog := ⟨empty⟩

/-- Report one diagnostic more. -/
def add (log : DiagnosticLog) (d : Diagnostic) : DiagnosticLog :=
  { entries := log.entries ++ [d], hasErrors := log.hasErrors || d.isError }

@[simp] theorem entries_add (log : DiagnosticLog) (d : Diagnostic) :
    (log.add d).entries = log.entries ++ [d] := rfl

/-- Forget all diagnostics. -/
def clear (_ : DiagnosticLog) : DiagnosticLog := empty

/-- The number of diagnostics. -/
def size (log : DiagnosticLog) : Nat := log.entries.length

/-- The number of those that report an error. -/
def errorCount (log : DiagnosticLog) : Nat := log.entries.countP Diagnostic.isError

/-- The diagnostics about a node. -/
def about (log : DiagnosticLog) (id : NodeId) : List Diagnostic :=
  log.entries.filter fun d => d.node? = some id

end DiagnosticLog

end Thresholding
