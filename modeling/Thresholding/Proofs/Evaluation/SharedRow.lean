import Thresholding.Proofs.Evaluation.Kernel

/-!
# Thresholding.Proofs.Evaluation.SharedRow

**One row of thresholds for all channels** is the same as a table that repeats the row for each
channel, as long as the kernel answers for the table.

With one row the kernel looks neither at the shape of the data nor for the channel of an element. A
table with more rows is where these are checked and where the channel selects a row. Whatever channel
comes out of a flat index, be the run of a channel empty or negative or the data longer than its
shape says, the row that is found there is the repeated one (`row_of_repeated`).
-/

namespace Thresholding

namespace Kernel

variable {data : Operand} {row : Buffer} {channels steps batch : Int64} {inner : List Int64}

/-- One row for all channels. -/
def sharedRow (row : Buffer) (steps : Int64) (type : ElementType) : Operand where
  values := row
  shape := ⟨[1, steps]⟩
  elementType := type

/-- The same row for each channel. -/
def repeatedRow (row : Buffer) (channels steps : Int64) (type : ElementType) : Operand where
  values := (List.replicate channels.toInt.toNat row).flatten
  shape := ⟨[channels, steps]⟩
  elementType := type

/-- One channel has the row once. -/
theorem repeatedRow_one (row : Buffer) (steps : Int64) (type : ElementType) :
    repeatedRow row 1 steps type = sharedRow row steps type := by
  simp [repeatedRow, sharedRow]

/-- A piece as long as the row, from a multiple of its length on, is the row again. -/
theorem take_drop_replicate {channel n : Nat} (h : channel < n) :
    ((List.replicate n row).flatten.drop (channel * row.length)).take row.length = row := by
  induction n generalizing channel with
  | zero => omega
  | succ n ih =>
      rw [List.replicate_succ, List.flatten_cons]
      cases channel with
      | zero => simp
      | succ channel =>
          rw [Nat.succ_mul, Nat.add_comm, List.drop_length_add_append]
          exact ih (by omega)

/-- Every channel finds the row. -/
theorem row_of_repeated {t : Table} (hentries : t.entries = (List.replicate t.rows row).flatten)
    (hsteps : t.steps = row.length) {channel : Nat} (h : channel < t.rows) :
    t.row channel = row := by
  rw [Table.row, hentries, hsteps]
  exact take_drop_replicate h

/-- A repeated row is a table, if its entries can be counted. -/
theorem table_repeatedRow (hchannels : 1 ≤ channels.toInt) (hsteps : steps.toInt = row.length)
    (hsize : channels.toInt * steps.toInt < 2 ^ 63) (type : ElementType) :
    ∃ t, table (repeatedRow row channels steps type) = .ok t ∧ (t.rows : Int) = channels.toInt ∧
      ∀ channel < t.rows, t.row channel = row := by
  have hlength : ((repeatedRow row channels steps type).values.length : Int) =
      channels.toInt * steps.toInt := by
    simp only [repeatedRow, List.length_flatten, List.map_replicate, List.sum_replicate_nat, hsteps]
    rw [Int.natCast_mul, Int.toNat_of_nonneg (by omega)]
  obtain ⟨t, htable⟩ := exists_table_iff.2 ⟨channels, steps, rfl, hchannels, by omega,
    Int.lt_trans hsize (by decide), hlength⟩
  obtain ⟨_, _, hdims, -, hrows, hcount⟩ := exists_dims_of_table htable
  cases hdims
  have hentries : t.entries = (List.replicate t.rows row).flatten := by
    rw [(table_eq_ok_iff.1 htable).2.1, repeatedRow, ← hrows, Int.toNat_natCast]
  exact ⟨t, htable, hrows, fun channel h => row_of_repeated hentries (by omega) h⟩

/-- **Every element is compared with the row that is repeated.** -/
theorem multiThreshold_repeatedRow (hchannels : 1 ≤ channels.toInt)
    (hsteps : steps.toInt = row.length) (hsize : channels.toInt * steps.toInt < 2 ^ 63)
    (hfits : Fits data.shape ⟨[channels, steps]⟩) (bias : Double) (type : ElementType) :
    multiThreshold data (repeatedRow row channels steps type) bias =
      .ok (data.values.map fun x => biased (count x row) bias) := by
  obtain ⟨t, htable, hrows, hrow⟩ := table_repeatedRow hchannels hsteps hsize type
  obtain ⟨_, _, hdims, -, hrun⟩ := hfits
  cases hdims
  obtain ⟨run, hrun⟩ := (exists_channelRun_iff hrows).2 hrun
  rw [multiThreshold_eq_ok htable hrun]
  refine congrArg Except.ok (List.ext_getElem (by simp) fun i _ _ => ?_)
  rw [List.getElem_mapIdx, List.getElem_map, hrow _ (channelAt_lt t.rows_pos run i)]

/-- **One row for all channels does what the row does that is repeated for each channel**: both
compare every element with the row. -/
theorem sharedRow_eq_repeatedRow (hchannels : 1 ≤ channels.toInt)
    (hsteps : steps.toInt = row.length) (hsize : channels.toInt * steps.toInt < 2 ^ 63)
    (hdims : data.shape.dims = batch :: channels :: inner) (hinner : ProductFits inner)
    (bias : Double) (type : ElementType) :
    multiThreshold data (sharedRow row steps type) bias =
        .ok (data.values.map fun x => biased (count x row) bias) ∧
      multiThreshold data (repeatedRow row channels steps type) bias =
        .ok (data.values.map fun x => biased (count x row) bias) := by
  have hone : (1 : Int64).toInt * steps.toInt < 2 ^ 63 := by
    have hle := steps.toInt_lt
    rwa [Int64.toInt_one, Int.one_mul]
  have hshared : Fits data.shape ⟨[1, steps]⟩ := ⟨1, steps, rfl, by decide, Or.inl rfl⟩
  have hrepeated : Fits data.shape ⟨[channels, steps]⟩ := by
    refine ⟨channels, steps, rfl, hchannels, Or.inr ?_⟩
    rw [hdims]
    exact ⟨rfl, exists_checkedProduct_iff.2 hinner⟩
  refine ⟨?_, multiThreshold_repeatedRow hchannels hsteps hsize hrepeated bias type⟩
  rw [← repeatedRow_one]
  exact multiThreshold_repeatedRow (by decide) hsteps hone hshared bias type

/-- Five values of a shape that has none, since a channel has a negative number of elements. -/
def negativeData : Operand where
  values := [1, 2, 3, 4, 5].map (.ofNat .binary32)
  shape := ⟨[2, 3, -1]⟩
  elementType := .float32

theorem sharedRow_eq_repeatedRow_negativeData :
    let row : Buffer := [2, 4, 2].map (.ofNat .binary32)
    1 ≤ (3 : Int64).toInt ∧ (3 : Int64).toInt = row.length ∧
      (3 : Int64).toInt * (3 : Int64).toInt < 2 ^ 63 ∧ negativeData.shape.dims = [2, 3, -1] ∧
      ProductFits [-1] ∧
      multiThreshold negativeData (sharedRow row 3 .float32) .zero =
        .ok (negativeData.values.map fun x => biased (count x row) .zero) ∧
      multiThreshold negativeData (repeatedRow row 3 3 .float32) .zero =
        .ok (negativeData.values.map fun x => biased (count x row) .zero) := by
  have hinner : ProductFits [-1] := by decide
  exact ⟨by decide, rfl, by decide, rfl, hinner,
    sharedRow_eq_repeatedRow (by decide) rfl (by decide) rfl hinner .zero .float32⟩

end Kernel

end Thresholding
