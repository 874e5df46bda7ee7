import Thresholding.Evaluation.Backend

/-!
# Thresholding.Evaluation.Kernel

The **reference kernel**: the thresholding operator on flat buffers.

An element of the data counts the thresholds of its channel that it is not below, and the
result is that count plus the bias. Data is laid out `[N, C, ...]`. The thresholds are a
table `[C, T]` with a row for each channel, or `[1, T]` with one row for all of them.

Design points:

* What is checked is what makes every access good: the table has as many entries as its
  shape says, and the channel of an element is a row of the table. The number of data
  values is *not* checked against the data's shape; an element's channel follows from its
  flat index.
* With one row the shape of the data is not looked at.
* The comparison is that of single precision; a value that is not a number crosses nothing.
  The sum is taken in double precision and then rounded to single precision.
-/

namespace Thresholding

namespace Kernel

/-- The number of addressable elements. -/
def addressable : Nat := 2 ^ (64 : Nat)

/-- A table of thresholds. -/
structure Table where
  /-- The number of rows. -/
  rows : Nat
  /-- The number of thresholds in a row. -/
  steps : Nat
  /-- The entries, row by row. -/
  entries : Buffer
  /-- There is a row for every channel number that a remainder can give. -/
  rows_pos : 0 < rows
  /-- The rows are full. -/
  length_entries : entries.length = rows * steps

/-- The row of a channel. -/
def Table.row (t : Table) (channel : Nat) : Buffer :=
  (t.entries.drop (channel * t.steps)).take t.steps

/-- Every channel of a table has a full row, so taking one never runs past the entries. -/
theorem Table.length_row (t : Table) {channel : Nat} (h : channel < t.rows) :
    (t.row channel).length = t.steps := by
  have hle : (channel + 1) * t.steps ≤ t.rows * t.steps := Nat.mul_le_mul_right _ h
  rw [Nat.succ_mul] at hle
  simp only [row, List.length_take, List.length_drop, t.length_entries]
  omega

/-- The table that an operand holds. -/
def table (thresholds : Operand) : Except EvalError Table :=
  match thresholds.shape.dims with
  | [rows, steps] =>
    if hdims : 0 < rows.toInt ∧ 0 ≤ steps.toInt then
      let size := rows.toInt.toNat * steps.toInt.toNat
      if addressable ≤ size then .error (.thresholdsTooLarge thresholds.shape)
      else if hsize : thresholds.values.length = size then
        .ok {
          rows := rows.toInt.toNat
          steps := steps.toInt.toNat
          entries := thresholds.values
          rows_pos := by omega
          length_entries := hsize }
      else .error (.shapeMismatch thresholds.shape.extents [thresholds.values.length])
    else .error (.badThresholdsShape thresholds.shape)
  | _ => .error (.badThresholdsShape thresholds.shape)

/-- The number of consecutive elements of the data that share a channel: the product of
the dimensions after the channel's. -/
def channelRun (rows : Nat) (data : Shape) : Except EvalError Nat :=
  if rows = 1 then .ok 1
  else
    match data.dim? 1 with
    | some channels =>
      if channels.toInt = rows then
        match checkedProduct (data.dims.drop 2) with
        | some run => .ok run.toInt.toNat
        | none => .error (.dataTooLarge data)
      else .error (.shapeMismatch [-1, rows] data.extents)
    | none => .error (.shapeMismatch [-1, rows] data.extents)

/-- The channel of the element at a flat index. An empty or negative run counts as one. -/
def channelAt (rows run index : Nat) : Nat := if rows = 1 then 0 else index / max run 1 % rows

theorem channelAt_lt {rows : Nat} (hrows : 0 < rows) (run index : Nat) :
    channelAt rows run index < rows := by
  simp only [channelAt]
  split
  · exact hrows
  · exact Nat.mod_lt _ hrows

/-- The number of thresholds that a value is not below. -/
def count (x : Single) (row : Buffer) : Nat := row.countP fun t => t.le x

/-- A count plus the bias, in single precision. -/
def biased (count : Nat) (bias : Double) : Single :=
  (Binary.ofNat .binary64 count + bias).convert .binary32

/-- The thresholding operator. -/
def multiThreshold (data thresholds : Operand) (bias : Double) : Except EvalError Buffer := do
  let table ← table thresholds
  let run ← channelRun table.rows data.shape
  return data.values.mapIdx fun index x =>
    biased (count x (table.row (channelAt table.rows run index))) bias

/-- The answer of the reference backend. It computes calls, on the first two operands, and
refuses sources. -/
def answer (call : Invocation) : Except EvalError Buffer :=
  match call.op with
  | .var _ => .error .sourceNode
  | .constant => .error .sourceNode
  | .multiThreshold attrs =>
    match call.operands with
    | [] => .error (.missingOperand 0)
    | [_] => .error (.missingOperand 1)
    | data :: thresholds :: _ => multiThreshold data thresholds attrs.outBias

end Kernel

/-- The reference backend. -/
def Backend.reference {σ : Type} : Backend σ := .ofFunction Kernel.answer

end Thresholding
