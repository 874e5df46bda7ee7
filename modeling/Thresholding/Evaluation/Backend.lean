import Thresholding.Evaluation.Error

/-!
# Thresholding.Evaluation.Backend

**Backends**: what computes the calls of a graph.

Design points:

* A backend sees one call at a time, as an `Invocation`: the operator, its operands with
  their values, and the type of the result. It never sees the graph.
* A backend may keep a state of its own and may fail, and nothing is promised of the values
  it answers with. `Backend.ofFunction` is the case without state.
* `Backend.recording` keeps what a backend was asked, in order, so that statements about
  an evaluation's calls are statements about a state.
-/

namespace Thresholding

/-- An operand with its values. -/
structure Operand where
  /-- The values, flat. -/
  values : Buffer
  /-- The shape they are said to have. -/
  shape : Shape
  /-- The type they are said to have. -/
  elementType : ElementType
  deriving Repr, DecidableEq

/-- What a backend is asked to compute. -/
structure Invocation where
  /-- The operator. -/
  op : Op
  /-- The operands, in order. -/
  operands : List Operand
  /-- The type of the result. -/
  result : TensorType
  deriving Repr, DecidableEq

/-- A backend with a state of type `σ`. The answer comes with the state as it is then. -/
abbrev Backend (σ : Type) : Type := Invocation → σ → Except EvalError Buffer × σ

namespace Backend

variable {σ : Type}

/-- The backend whose answer depends on the invocation alone. -/
def ofFunction (f : Invocation → Except EvalError Buffer) : Backend σ := fun call s => (f call, s)

/-- The same backend, which also keeps what it was asked, in order. -/
def recording (b : Backend σ) : Backend (List Invocation × σ) := fun call (calls, s) =>
  let (answer, s) := b call s
  (answer, (calls ++ [call], s))

end Backend

end Thresholding
