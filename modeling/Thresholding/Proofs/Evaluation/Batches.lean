import Thresholding.Proofs.Evaluation.Kernel

/-!
# Thresholding.Proofs.Evaluation.Batches

**Batches are independent.** The kernel finds the channel of an element from its place among all
values of the data. From one batch to the next the channels come again in the same order, so whole
batches can be cut off in front of the data and be computed on their own.

The dimensions may have any sign. With one row of thresholds it does not matter where the data is cut.
With more rows a run that is empty or negative counts as one element, so the channels come again
sooner than a batch is said to end, and at its end too.
-/

namespace Thresholding

namespace Kernel

variable {first second whole thresholds : Operand} {channels : Int64} {inner : List Int64}
  {bias : Double} {values : Buffer} {rows run : Nat}

/-! ### Where channels come again -/

/-- The channels come again after a run of each. -/
theorem channelAt_add {n : Nat} (h : rows = 1 ∨ rows * max run 1 ∣ n) (index : Nat) :
    channelAt rows run (n + index) = channelAt rows run index := by
  unfold channelAt
  by_cases hone : rows = 1
  · rw [if_pos hone, if_pos hone]
  · obtain ⟨k, rfl⟩ := h.resolve_left hone
    have hrun : 0 < max run 1 := by omega
    rw [if_neg hone, if_neg hone, Nat.mul_comm rows, Nat.mul_assoc, Nat.mul_add_div hrun,
      Nat.mul_add_mod]

/-- The run of a channel depends on the dimensions from the channels on. -/
theorem channelRun_eq_ok_iff {batch : Int64} {data : Shape}
    (hdims : data.dims = batch :: channels :: inner) :
    channelRun rows data = .ok run ↔ rows = 1 ∧ run = 1 ∨
      rows ≠ 1 ∧ channels.toInt = rows ∧ ∃ n, checkedProduct inner = some n ∧ run = n.toInt.toNat := by
  have hdim : data.dim? 1 = some channels := (data.dim?_natCast 1).trans (by simp [hdims])
  unfold channelRun
  by_cases hone : rows = 1
  · simp [hone, eq_comm]
  · rw [if_neg hone, hdim, hdims]
    by_cases hchannels : channels.toInt = rows
    · cases hproduct : checkedProduct inner <;> simp [hone, hchannels, hproduct, eq_comm]
    · simp [hone, hchannels]

/-- After whole batches the channels come again, also if a run of them is empty or negative. -/
theorem dvd_of_channelRun {batch : Int64} {data : Shape} {length : Nat}
    (hdims : data.dims = batch :: channels :: inner)
    (hwhole : channels.toInt * (inner.map Int64.toInt).prod ∣ length)
    (hrun : channelRun rows data = .ok run) : rows = 1 ∨ rows * max run 1 ∣ length := by
  rcases (channelRun_eq_ok_iff hdims).1 hrun with ⟨hone, -⟩ | ⟨-, hchannels, n, hn, rfl⟩
  · exact Or.inl hone
  · right
    rw [hchannels, ← (checkedProduct_eq_some_iff.1 hn).2] at hwhole
    rcases Int.lt_or_le 0 n.toInt with hpos | hnonpos
    · have hmax : ((max n.toInt.toNat 1 : Nat) : Int) = n.toInt := by omega
      rw [← hmax] at hwhole
      exact_mod_cast hwhole
    · have hmax : max n.toInt.toNat 1 = 1 := by omega
      rw [hmax, Nat.mul_one]
      exact Int.natCast_dvd_natCast.1 (dvd_of_mul_right_dvd hwhole)

/-! ### Cutting the data -/

/-- Data that is cut after whole batches. The shapes have the same dimensions but for the number of
batches, which need not be what the values make. -/
structure Stacks (first second whole : Operand) (channels : Int64) (inner : List Int64) : Prop where
  /-- The dimensions of the batches in front. -/
  first_dims : ∃ batch, first.shape.dims = batch :: channels :: inner
  /-- The dimensions of what comes after them. -/
  second_dims : ∃ batch, second.shape.dims = batch :: channels :: inner
  /-- The dimensions of all the data. -/
  whole_dims : ∃ batch, whole.shape.dims = batch :: channels :: inner
  /-- The values follow each other. -/
  values_eq : whole.values = first.values ++ second.values
  /-- In front there are whole batches. -/
  length_dvd : channels.toInt * (inner.map Int64.toInt).prod ∣ first.values.length

/-- **Batches are independent**: if the kernel answers for those in front, it answers for the rest and
for the whole, and the answer for the whole is the one answer and then the other. -/
theorem multiThreshold_of_stacks (h : Stacks first second whole channels inner)
    (hfirst : multiThreshold first thresholds bias = .ok values) :
    ∃ values', multiThreshold second thresholds bias = .ok values' ∧
      multiThreshold whole thresholds bias = .ok (values ++ values') := by
  obtain ⟨t, run, htable, hrun, rfl⟩ := multiThreshold_inv hfirst
  obtain ⟨_, hdims⟩ := h.first_dims
  obtain ⟨_, hdims₂⟩ := h.second_dims
  obtain ⟨_, hdims₃⟩ := h.whole_dims
  have hspec := (channelRun_eq_ok_iff hdims).1 hrun
  have hrun₂ := (channelRun_eq_ok_iff hdims₂).2 hspec
  have hrun₃ := (channelRun_eq_ok_iff hdims₃).2 hspec
  have hperiod := dvd_of_channelRun hdims h.length_dvd hrun
  refine ⟨_, multiThreshold_eq_ok htable hrun₂ bias, ?_⟩
  rw [multiThreshold_eq_ok htable hrun₃, h.values_eq, List.mapIdx_append]
  simp only [Nat.add_comm _ first.values.length, channelAt_add hperiod]

/-- Two channels with two places each. -/
def twoByTwo (batches : Int64) (values : List Nat) : Operand where
  values := values.map (.ofNat .binary32)
  shape := ⟨[batches, 2, 2]⟩
  elementType := .float32

/-- The rows `1` and `3`. -/
def oneStepRows : Operand where
  values := [1, 3].map (.ofNat .binary32)
  shape := ⟨[2, 1]⟩
  elementType := .float32

/-- The second batch is not full. -/
theorem multiThreshold_of_stacks_twoByTwo :
    Stacks (twoByTwo 1 [0, 1, 2, 3]) (twoByTwo 1 [4, 0, 5]) (twoByTwo 2 [0, 1, 2, 3, 4, 0, 5]) 2 [2] ∧
      multiThreshold (twoByTwo 1 [0, 1, 2, 3]) oneStepRows .zero =
        .ok ([0, 1, 0, 1].map (.ofNat .binary32)) ∧
      ∃ values', multiThreshold (twoByTwo 1 [4, 0, 5]) oneStepRows .zero = .ok values' ∧
        multiThreshold (twoByTwo 2 [0, 1, 2, 3, 4, 0, 5]) oneStepRows .zero =
          .ok ([0, 1, 0, 1].map (.ofNat .binary32) ++ values') := by
  have hstacks : Stacks (twoByTwo 1 [0, 1, 2, 3]) (twoByTwo 1 [4, 0, 5])
      (twoByTwo 2 [0, 1, 2, 3, 4, 0, 5]) 2 [2] :=
    ⟨⟨1, rfl⟩, ⟨1, rfl⟩, ⟨2, rfl⟩, rfl, by decide⟩
  have hfirst : multiThreshold (twoByTwo 1 [0, 1, 2, 3]) oneStepRows .zero =
      .ok ([0, 1, 0, 1].map (.ofNat .binary32)) := by decide +kernel
  exact ⟨hstacks, hfirst, multiThreshold_of_stacks hstacks hfirst⟩

/-- Cut within a batch, the data that follows starts with the wrong channel. -/
example : (multiThreshold (twoByTwo 1 [2, 3]) oneStepRows .zero).toOption =
    some ([1, 1].map (.ofNat .binary32)) := by decide +kernel

end Kernel

end Thresholding
