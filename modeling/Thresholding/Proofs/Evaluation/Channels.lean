import Thresholding.Proofs.Evaluation.Kernel
import Thresholding.Proofs.Tensor.Product

/-!
# Thresholding.Proofs.Evaluation.Channels

**The reference kernel by batch, channel and place.** The kernel finds the channel of an element
from its flat index. If the values are laid out as the shapes say, this is the channel that the
element has as a member of its batch, and the thresholds that it is compared with are those of
that channel.
-/

namespace Thresholding

namespace Kernel

variable {data thresholds : Operand}

/-! ### The thresholds of a channel -/

/-- A member of a list is counted at its place. -/
theorem countP_eq_countP_range {α : Type} (p : α → Bool) (l : List α) :
    l.countP p = (List.range l.length).countP fun i => l[i]?.any p := by
  induction l with
  | nil => rfl
  | cons a l ih =>
      rw [List.length_cons, List.range_succ_eq_map, List.countP_cons, List.countP_cons,
        List.countP_map, ih]
      simp [Function.comp_def]

/-- The thresholds of a channel that a value is not below, by their places among all entries. -/
theorem count_row (t : Table) {channel : Nat} (h : channel < t.rows) (x : Single) :
    count x (t.row channel) = (List.range t.steps).countP fun i =>
      t.entries[channel * t.steps + i]?.any fun threshold => threshold.le x := by
  rw [count, countP_eq_countP_range, t.length_row h]
  refine List.countP_congr fun i hi => ?_
  rw [Table.row, List.getElem?_take_of_lt (List.mem_range.1 hi), List.getElem?_drop]

/-! ### The channel of an element -/

/-- The channel of the element at place `j` of channel `c` in batch `n`. -/
theorem channelAt_flat {channels run inner n c j : Nat} (hc : c < channels) (hj : j < inner)
    (hrun : channels = 1 ∨ run = inner) :
    channelAt channels run ((n * channels + c) * inner + j) = c := by
  unfold channelAt
  by_cases hone : channels = 1
  · rw [if_pos hone]
    omega
  · obtain rfl := hrun.resolve_left hone
    rw [if_neg hone, Nat.max_eq_left (by omega), Nat.mul_comm _ run, Nat.mul_add_div (by omega),
      Nat.div_eq_of_lt hj, Nat.add_zero, Nat.mul_comm n, Nat.mul_add_mod, Nat.mod_eq_of_lt hc]

theorem flat_lt {batch channels inner n c j : Nat} (hn : n < batch) (hc : c < channels)
    (hj : j < inner) : (n * channels + c) * inner + j < batch * channels * inner := by
  have hrow : n * channels + c < batch * channels := by
    calc n * channels + c < (n + 1) * channels := by rw [Nat.succ_mul]; omega
      _ ≤ batch * channels := Nat.mul_le_mul_right _ hn
  calc (n * channels + c) * inner + j < (n * channels + c + 1) * inner := by
        rw [Nat.succ_mul]; omega
    _ ≤ batch * channels * inner := Nat.mul_le_mul_right _ hrow

/-! ### The answer -/

/-- Data `[N, C, …]` and thresholds `[C, T]` that are laid out as their shapes say. -/
structure Tiled (data thresholds : Operand) (batch channels steps : Nat) (inner : List Nat) :
    Prop where
  /-- The dimensions of the data. -/
  data_extents : data.shape.extents = (batch :: channels :: inner).map Nat.cast
  /-- The data has a value for each element. -/
  data_length : data.values.length = batch * channels * inner.prod
  /-- The elements of a channel can be counted, dimension by dimension. -/
  inner_fits : ∀ k ≤ inner.length, ((inner.take k).prod : Int) ≤ Int64.maxValue.toInt
  /-- The dimensions of the thresholds. -/
  thresholds_extents : thresholds.shape.extents = [channels, steps].map Nat.cast
  /-- There is a threshold for each channel and step. -/
  thresholds_length : thresholds.values.length = channels * steps
  /-- There is a channel. -/
  channels_pos : 0 < channels
  /-- The thresholds can be counted. -/
  thresholds_fit : ((channels * steps : Nat) : Int) ≤ Int64.maxValue.toInt

/-- The elements of a channel that stand together in a batch are counted, unless there is one
channel only. -/
theorem exists_channelRun {batch channels : Nat} {inner : List Nat}
    (hextents : data.shape.extents = (batch :: channels :: inner).map Nat.cast)
    (hfits : ∀ k ≤ inner.length, ((inner.take k).prod : Int) ≤ Int64.maxValue.toInt) :
    ∃ run, channelRun channels data.shape = .ok run ∧ (channels = 1 ∨ run = inner.prod) := by
  unfold channelRun
  by_cases hone : channels = 1
  · exact ⟨1, if_pos hone, Or.inl hone⟩
  · simp only [Shape.extents, List.map_cons, List.map_eq_cons_iff] at hextents
    obtain ⟨n, _, hdims, -, c, rest, rfl, hc, hrest⟩ := hextents
    obtain ⟨run, hrun, hprod⟩ := exists_checkedProduct hrest hfits
    have hdim : data.shape.dim? 1 = some c := (data.shape.dim?_natCast 1).trans (by simp [hdims])
    refine ⟨run.toInt.toNat, ?_, Or.inr (by rw [hprod, Int.toNat_natCast])⟩
    simp [hone, hdim, hc, hdims, hrun]

/-- The answer for tiled operands: element by element, the number of thresholds of the element's
channel that the element is not below, plus the bias, summed in double precision and rounded to
single precision. -/
structure ByChannel (data thresholds : Operand) (batch channels steps : Nat) (inner : List Nat)
    (bias : Double) (values : Buffer) : Prop where
  /-- There is a value for each element. -/
  length_eq : values.length = data.values.length
  /-- The value of the element at place `j` of channel `c` in batch `n`. -/
  value : ∀ n < batch, ∀ c < channels, ∀ j < inner.prod, ∃ x,
    data.values[(n * channels + c) * inner.prod + j]? = some x ∧
    values[(n * channels + c) * inner.prod + j]? =
      some ((Binary.ofNat .binary64 ((List.range steps).countP fun t =>
        thresholds.values[c * steps + t]?.any fun threshold => threshold.le x) + bias).convert
          .binary32)

/-- **The kernel thresholds each channel by its own row**, whatever the rank of the data and
however many channels there are. -/
theorem multiThreshold_of_tiled {batch channels steps : Nat} {inner : List Nat}
    (h : Tiled data thresholds batch channels steps inner) (bias : Double) :
    ∃ values, multiThreshold data thresholds bias = .ok values ∧
      ByChannel data thresholds batch channels steps inner bias values := by
  let t : Table := {
    rows := channels
    steps := steps
    entries := thresholds.values
    rows_pos := h.channels_pos
    length_entries := h.thresholds_length }
  have hsmall : channels * steps < addressable := by
    have hfit := h.thresholds_fit
    rw [Int64.toInt_maxValue] at hfit
    show channels * steps < 2 ^ (64 : Nat)
    omega
  have htable : table thresholds = .ok t :=
    table_eq_ok_iff.2 ⟨h.thresholds_extents, rfl, hsmall⟩
  obtain ⟨run, hrun, hinner⟩ := exists_channelRun h.data_extents h.inner_fits
  refine ⟨_, bind_eq_ok_iff.2 ⟨t, htable, bind_eq_ok_iff.2 ⟨run, hrun, rfl⟩⟩,
    List.length_mapIdx, fun n hn c hc j hj => ?_⟩
  have hlt : (n * channels + c) * inner.prod + j < data.values.length :=
    h.data_length ▸ flat_lt hn hc hj
  refine ⟨data.values[(n * channels + c) * inner.prod + j], List.getElem?_eq_getElem hlt, ?_⟩
  rw [List.getElem?_mapIdx, List.getElem?_eq_getElem hlt, Option.map_some,
    channelAt_flat hc hj hinner, count_row t hc]
  rfl

/-- Two batches of two channels with two places each; one element is not a number. -/
def batchedData : Operand where
  values := [1, 5, 2, 7].map (.ofNat .binary32) ++ .nan :: [4, 3, 6].map (.ofNat .binary32)
  shape := ⟨[2, 2, 2]⟩
  elementType := .float32

/-- The rows `1, 4` and `3, 7`. -/
def channelRows : Operand where
  values := [1, 4, 3, 7].map (.ofNat .binary32)
  shape := ⟨[2, 2]⟩
  elementType := .float32

theorem multiThreshold_of_tiled_batchedData :
    Tiled batchedData channelRows 2 2 2 [2] ∧
      ∃ values, multiThreshold batchedData channelRows (.ofInt .binary64 (-1)) = .ok values ∧
        ByChannel batchedData channelRows 2 2 2 [2] (.ofInt .binary64 (-1)) values := by
  have htiled : Tiled batchedData channelRows 2 2 2 [2] := by
    constructor <;> decide +kernel
  exact ⟨htiled, multiThreshold_of_tiled htiled _⟩

/-- The counts are `1, 2` and `0, 2` in the first batch, `0, 2` and `1, 1` in the second one. -/
example : (multiThreshold batchedData channelRows (.ofInt .binary64 (-1))).toOption =
    some ([0, 1, -1, 1, -1, 1, 0, 0].map (.ofInt .binary32)) := by decide +kernel

end Kernel

end Thresholding
