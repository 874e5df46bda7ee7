import Thresholding.Evaluation.Kernel
import Thresholding.Proofs.Failure
import Thresholding.Proofs.Tensor.ElementCount

/-!
# Thresholding.Proofs.Evaluation.Kernel

**When the reference kernel answers**: there is a table of thresholds, and the shapes of the operands
fit. If there are as many thresholds as their shape says, this is a condition on the shapes alone. The
answer is as long as the data.
-/

namespace Thresholding

namespace Kernel

variable {data thresholds : Operand}

/-- The shapes that the kernel takes: a table of thresholds with at least one row, and one row
for all channels or one for each channel of the data, where the elements of a channel can be
counted. -/
def Fits (data thresholds : Shape) : Prop :=
  ∃ channels steps, thresholds.dims = [channels, steps] ∧ 1 ≤ channels.toInt ∧
    (channels.toInt = 1 ∨
      data.dims[1]? = some channels ∧ ∃ run, checkedProduct (data.dims.drop 2) = some run)

/-! ### The table -/

/-- The table of an operand has the operand's dimensions and values. -/
theorem table_eq_ok_iff {t : Table} :
    table thresholds = .ok t ↔ thresholds.shape.extents = [(t.rows : Int), (t.steps : Int)] ∧
      t.entries = thresholds.values ∧ t.rows * t.steps < addressable := by
  constructor
  · intro h
    unfold table at h
    split at h
    · next rows steps hdims =>
        split at h
        · next hpos =>
            dsimp only at h
            split at h
            · exact absurd h (by simp)
            · next hsmall =>
                split at h
                · cases h
                  refine ⟨?_, rfl, Nat.lt_of_not_le hsmall⟩
                  simp only [Shape.extents, hdims, List.map_cons, List.map_nil]
                  rw [Int.toNat_of_nonneg (Int.le_of_lt hpos.1), Int.toNat_of_nonneg hpos.2]
                · exact absurd h (by simp)
        · exact absurd h (by simp)
    · exact absurd h (by simp)
  · obtain ⟨r, s, entries, hpos, hlength⟩ := t
    rintro ⟨hextents, rfl, hsmall⟩
    simp only [Shape.extents, List.map_eq_cons_iff, List.map_eq_nil_iff] at hextents
    obtain ⟨rows, _, hdims, hrows, steps, _, rfl, hsteps, rfl⟩ := hextents
    obtain rfl : r = rows.toInt.toNat := by omega
    obtain rfl : s = steps.toInt.toNat := by omega
    unfold table
    rw [hdims]
    dsimp only
    rw [dif_pos (by omega), if_neg (Nat.not_le_of_lt hsmall), dif_pos hlength]

theorem exists_dims_of_table {t : Table} (h : table thresholds = .ok t) :
    ∃ channels steps, thresholds.shape.dims = [channels, steps] ∧ 1 ≤ channels.toInt ∧
      (t.rows : Int) = channels.toInt ∧ (t.steps : Int) = steps.toInt := by
  have hextents := (table_eq_ok_iff.1 h).1
  simp only [Shape.extents, List.map_eq_cons_iff, List.map_eq_nil_iff] at hextents
  obtain ⟨channels, _, hdims, hrows, steps, _, rfl, hsteps, rfl⟩ := hextents
  have hpos := t.rows_pos
  exact ⟨channels, steps, hdims, by omega, hrows.symm, hsteps.symm⟩

/-- **Which operands hold a table**: there is a row, and the entries are as many as the shape says and
can be addressed. -/
theorem exists_table_iff : (∃ t, table thresholds = .ok t) ↔
    ∃ channels steps, thresholds.shape.dims = [channels, steps] ∧ 1 ≤ channels.toInt ∧
      0 ≤ steps.toInt ∧ channels.toInt * steps.toInt < addressable ∧
      (thresholds.values.length : Int) = channels.toInt * steps.toInt := by
  constructor
  · rintro ⟨t, htable⟩
    obtain ⟨channels, steps, hdims, hchannels, hrows, hsteps⟩ := exists_dims_of_table htable
    obtain ⟨-, hentries, hsmall⟩ := table_eq_ok_iff.1 htable
    refine ⟨channels, steps, hdims, hchannels, by omega, ?_, ?_⟩
    · rw [← hrows, ← hsteps]
      exact_mod_cast hsmall
    · rw [← hrows, ← hsteps, ← hentries, t.length_entries, Int.natCast_mul]
  · rintro ⟨channels, steps, hdims, hchannels, hsteps, hsmall, hlength⟩
    have hrows : (channels.toInt.toNat : Int) = channels.toInt := Int.toNat_of_nonneg (by omega)
    have hcount : (steps.toInt.toNat : Int) = steps.toInt := Int.toNat_of_nonneg hsteps
    have hsize : channels.toInt.toNat * steps.toInt.toNat < addressable := by
      rw [← hrows, ← hcount] at hsmall
      exact_mod_cast hsmall
    let t : Table := {
      rows := channels.toInt.toNat
      steps := steps.toInt.toNat
      entries := thresholds.values
      rows_pos := by omega
      length_entries := by
        rw [← hrows, ← hcount] at hlength
        exact_mod_cast hlength }
    refine ⟨t, table_eq_ok_iff.2 ⟨?_, rfl, hsize⟩⟩
    simp only [Shape.extents, hdims, List.map_cons, List.map_nil, t, hrows, hcount]

/-- A table that is as full as its shape says is never too large. -/
theorem exists_table {channels steps : Int64} (hdims : thresholds.shape.dims = [channels, steps])
    (hchannels : 1 ≤ channels.toInt) (hsteps : 0 ≤ steps.toInt)
    (hholds : thresholds.shape.Holds thresholds.values) : ∃ t, table thresholds = .ok t := by
  obtain ⟨n, hn, hlength⟩ := hholds
  rw [Shape.elementCount?, hdims] at hn
  have hsize := checkedProduct_pair hn
  have hlt : n.toInt < addressable := by
    have hn := n.toInt_lt
    show n.toInt < ((2 ^ (64 : Nat) : Nat) : Int)
    omega
  exact exists_table_iff.2 ⟨channels, steps, hdims, hchannels, hsteps, by rwa [hsize],
    by rw [hsize, hlength]⟩

/-! ### The elements of a channel -/

theorem exists_channelRun_iff {rows : Nat} {channels : Int64} {data : Shape}
    (hrows : (rows : Int) = channels.toInt) :
    (∃ run, channelRun rows data = .ok run) ↔ channels.toInt = 1 ∨
      data.dims[1]? = some channels ∧ ∃ run, checkedProduct (data.dims.drop 2) = some run := by
  have hone : rows = 1 ↔ channels.toInt = 1 := by omega
  have hdim : data.dim? 1 = data.dims[1]? := data.dim?_natCast 1
  unfold channelRun
  rw [hdim]
  by_cases h : rows = 1
  · rw [if_pos h]
    exact iff_of_true ⟨1, rfl⟩ (Or.inl (hone.1 h))
  · rw [if_neg h, or_iff_right (fun hchannels => h (hone.2 hchannels))]
    cases data.dims[1]? with
    | none => simp
    | some c =>
        have hc : c.toInt = rows ↔ c = channels := by rw [hrows, Int64.toInt_inj]
        simp only [hc, Option.some.injEq]
        split
        · next heq =>
            cases checkedProduct (data.dims.drop 2) with
            | none => simp
            | some run => exact iff_of_true ⟨_, rfl⟩ ⟨heq, run, rfl⟩
        · next hne => simp [hne]

/-! ### The answer -/

/-- Once there is a table, the run of a channel is all that the answer waits for. -/
theorem multiThreshold_of_table {t : Table} (h : table thresholds = .ok t) (bias : Double) :
    multiThreshold data thresholds bias = (channelRun t.rows data.shape).map fun run =>
      data.values.mapIdx fun index x =>
        biased (count x (t.row (channelAt t.rows run index))) bias := by
  rw [multiThreshold, h]
  show (channelRun t.rows data.shape >>= _) = _
  cases channelRun t.rows data.shape <;> rfl

/-- The answer when the table and the run of a channel are known. -/
theorem multiThreshold_eq_ok {t : Table} {run : Nat} (htable : table thresholds = .ok t)
    (hrun : channelRun t.rows data.shape = .ok run) (bias : Double) :
    multiThreshold data thresholds bias = .ok (data.values.mapIdx fun index x =>
      biased (count x (t.row (channelAt t.rows run index))) bias) := by
  rw [multiThreshold_of_table htable, hrun]
  rfl

/-- **The kernel answers exactly when there is a table and the shapes fit.** -/
theorem exists_multiThreshold_iff_table {bias : Double} :
    (∃ values, multiThreshold data thresholds bias = .ok values) ↔
      (∃ t, table thresholds = .ok t) ∧ Fits data.shape thresholds.shape := by
  simp only [multiThreshold, bind_eq_ok_iff]
  constructor
  · rintro ⟨_, t, htable, run, hrun, -⟩
    obtain ⟨channels, steps, hdims, hchannels, hrows, -⟩ := exists_dims_of_table htable
    exact ⟨⟨t, htable⟩, channels, steps, hdims, hchannels,
      (exists_channelRun_iff hrows).1 ⟨run, hrun⟩⟩
  · rintro ⟨⟨t, htable⟩, channels, steps, hdims, hchannels, hrun⟩
    obtain ⟨channels', _, hdims', -, hrows, -⟩ := exists_dims_of_table htable
    rw [hdims] at hdims'
    cases hdims'
    obtain ⟨run, hrun⟩ := (exists_channelRun_iff hrows).2 hrun
    exact ⟨_, t, htable, run, hrun, rfl⟩

/-- If the thresholds are as many as their shape says and do not have a negative number of steps, it
is the shapes alone. -/
theorem exists_multiThreshold_iff {bias : Double}
    (hholds : thresholds.shape.Holds thresholds.values)
    (hsteps : ∀ last, thresholds.shape.dims.getLast? = some last → 0 ≤ last.toInt) :
    (∃ values, multiThreshold data thresholds bias = .ok values) ↔
      Fits data.shape thresholds.shape := by
  rw [exists_multiThreshold_iff_table]
  refine and_iff_right_of_imp ?_
  rintro ⟨channels, steps, hdims, hchannels, -⟩
  exact exists_table hdims hchannels (hsteps steps (by rw [hdims]; rfl)) hholds

/-- What has gone well when the kernel has answered. -/
theorem multiThreshold_inv {bias : Double} {values : Buffer}
    (h : multiThreshold data thresholds bias = .ok values) :
    ∃ t run, table thresholds = .ok t ∧ channelRun t.rows data.shape = .ok run ∧
      values = data.values.mapIdx fun index x =>
        biased (count x (t.row (channelAt t.rows run index))) bias := by
  obtain ⟨t, htable, h⟩ := bind_eq_ok_iff.1 h
  obtain ⟨run, hrun, h⟩ := bind_eq_ok_iff.1 h
  cases h
  exact ⟨t, run, htable, hrun, rfl⟩

/-- The answer has a value for every value of the data. -/
theorem length_of_multiThreshold {bias : Double} {values : Buffer}
    (h : multiThreshold data thresholds bias = .ok values) :
    values.length = data.values.length := by
  obtain ⟨_, _, -, -, rfl⟩ := multiThreshold_inv h
  exact List.length_mapIdx

end Kernel

end Thresholding
