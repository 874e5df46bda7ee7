import Thresholding.Proofs.Binary.Order
import Thresholding.Proofs.Evaluation.Kernel

/-!
# Thresholding.Proofs.Evaluation.Counts

**What the kernel counts**: for each element, the thresholds of its row that are numbers and not
above it. As a function of the element this is a step function, and as a function of the row it does
not see the order.

Rows need not be sorted, and they may hold a threshold more than once. Nothing here depends on it:
the order of numbers is transitive, not-a-number is compared with nothing, and a permutation of a
row does not change how many of its members have a property.
-/

namespace Thresholding

namespace Kernel

variable {data thresholds thresholds' : Operand} {t : Table} {run : Nat} {bias : Double}
  {values row row' : Buffer} {x y : Single}

/-! ### One row -/

/-- **A greater value counts no fewer thresholds.** -/
theorem count_mono (h : x.le y = true) (row : Buffer) : count x row ≤ count y row :=
  List.countP_mono_left fun _ _ ht => Binary.le_trans ht h

@[simp] theorem count_nan (row : Buffer) : count .nan row = 0 := by
  simp [count]

/-- The thresholds of a row that are numbers; an infinity is one. -/
def numbers (row : Buffer) : Buffer := row.filter (· ≠ .nan)

/-- The others are not counted. -/
theorem count_numbers (x : Single) (row : Buffer) : count x (numbers row) = count x row := by
  rw [count, count, numbers, List.countP_filter]
  refine List.countP_congr fun t _ => ?_
  by_cases ht : t = .nan
  · simp [ht]
  · simp [ht]

/-- Positive infinity counts all numbers. -/
theorem count_infinity (row : Buffer) : count (.infinity false) row = (numbers row).length := by
  rw [count, numbers, ← List.countP_eq_length_filter]
  exact List.countP_congr fun t _ => by simp [Binary.le_infinity_iff]

/-- **The order of the thresholds makes no difference.** -/
theorem count_perm (h : row.Perm row') (x : Single) : count x row = count x row' :=
  h.countP_eq _

/-! ### All elements -/

/-- The counts of the elements, each in the row of its channel. -/
def counts (t : Table) (run : Nat) (values : Buffer) : List Nat :=
  values.mapIdx fun index x => count x (t.row (channelAt t.rows run index))

theorem getElem?_counts {i : Nat} (h : values[i]? = some x) :
    (counts t run values)[i]? = some (count x (t.row (channelAt t.rows run i))) := by
  rw [counts, List.getElem?_mapIdx, h, Option.map_some]

/-- What is added to the bias is the counts. -/
theorem multiThreshold_eq_counts (htable : table thresholds = .ok t)
    (hrun : channelRun t.rows data.shape = .ok run) (bias : Double) :
    multiThreshold data thresholds bias =
      .ok ((counts t run data.values).map (biased · bias)) := by
  simp only [multiThreshold_eq_ok htable hrun, counts, List.mapIdx_eq_zipIdx_map, List.map_map,
    Function.comp_def]

/-- Thresholds that are the same but for their order in each row. -/
structure SameRows (thresholds thresholds' : Operand) (steps : Nat) : Prop where
  /-- They have the same shape. -/
  shape_eq : thresholds'.shape = thresholds.shape
  /-- They are equally many. -/
  length_eq : thresholds'.values.length = thresholds.values.length
  /-- A row has the thresholds of the other row, each as often. -/
  row_perm : ∀ channel, ((thresholds'.values.drop (channel * steps)).take steps).Perm
    ((thresholds.values.drop (channel * steps)).take steps)

/-- The rows of a table can be permuted, and every element is counted as before. -/
theorem SameRows.multiThreshold_eq (hsame : SameRows thresholds thresholds' t.steps)
    (htable : table thresholds = .ok t) (hrun : channelRun t.rows data.shape = .ok run)
    (bias : Double) :
    multiThreshold data thresholds' bias = multiThreshold data thresholds bias := by
  obtain ⟨hextents, hentries, hsize⟩ := table_eq_ok_iff.1 htable
  let t' : Table := {
    rows := t.rows
    steps := t.steps
    entries := thresholds'.values
    rows_pos := t.rows_pos
    length_entries := by rw [hsame.length_eq, ← hentries, t.length_entries] }
  have htable' : table thresholds' = .ok t' := by
    refine table_eq_ok_iff.2 ⟨?_, rfl, hsize⟩
    rw [Shape.extents, hsame.shape_eq]
    exact hextents
  have hcounts : counts t' run data.values = counts t run data.values := by
    unfold counts
    refine congrArg (List.mapIdx · data.values) (funext fun i => funext fun x => ?_)
    have hrow := hsame.row_perm (channelAt t.rows run i)
    rw [← hentries] at hrow
    exact count_perm hrow x
  rw [multiThreshold_eq_counts htable' hrun, multiThreshold_eq_counts htable hrun, hcounts]

/-- **What an answer says of its elements.** `counts` are the numbers that are added to the bias. -/
structure StepCounts (data thresholds : Operand) (bias : Double) (values : Buffer) (t : Table)
    (run : Nat) (counts : List Nat) : Prop where
  /-- The rows are those of the thresholds. -/
  table_eq : table thresholds = .ok t
  /-- The channels are those of the data. -/
  run_eq : channelRun t.rows data.shape = .ok run
  /-- The values are the counts plus the bias. -/
  values_eq : values = counts.map (biased · bias)
  /-- There is a count for each element. -/
  length_eq : counts.length = data.values.length
  /-- A count is the number of those thresholds in the element's row that are numbers and not above
  the element. Those that are not numbers are in no count. -/
  count_eq : ∀ i x, data.values[i]? = some x → counts[i]? =
    some ((numbers (t.row (channelAt t.rows run i))).countP fun threshold => threshold.le x)
  /-- In a channel, the count of a greater element is not less. -/
  mono : ∀ i j x y m n, data.values[i]? = some x → data.values[j]? = some y →
    channelAt t.rows run i = channelAt t.rows run j → x.le y = true →
    counts[i]? = some m → counts[j]? = some n → m ≤ n
  /-- An element that is not a number counts nothing. -/
  nan_eq_zero : ∀ i : Nat, data.values[i]? = some .nan → counts[i]? = some 0
  /-- Positive infinity counts all thresholds of its row that are numbers. -/
  infinity_eq : ∀ i : Nat, data.values[i]? = some (.infinity false) →
    counts[i]? = some (numbers (t.row (channelAt t.rows run i))).length
  /-- There are no more thresholds to count than steps. -/
  le_steps : ∀ n ∈ counts, n ≤ t.steps
  /-- The thresholds can change places in their rows. -/
  perm : ∀ thresholds', SameRows thresholds thresholds' t.steps →
    multiThreshold data thresholds' bias = .ok values

/-- **The kernel counts by a step function** that does not see the order of a row, whatever the
operands are that it has answered. -/
theorem stepCounts_of_multiThreshold (h : multiThreshold data thresholds bias = .ok values) :
    ∃ t run counts, StepCounts data thresholds bias values t run counts := by
  obtain ⟨t, run, htable, hrun, -⟩ := multiThreshold_inv h
  have hvalues := h.symm.trans (multiThreshold_eq_counts htable hrun bias)
  refine ⟨t, run, counts t run data.values, ?_⟩
  constructor
  case table_eq => exact htable
  case run_eq => exact hrun
  case values_eq => exact Except.ok.inj hvalues
  case length_eq => exact List.length_mapIdx
  case count_eq =>
    intro i x hx
    rw [getElem?_counts hx, ← count_numbers, count]
  case mono =>
    intro i j x y m n hx hy hchannel hle hm hn
    rw [getElem?_counts hx, Option.some.injEq] at hm
    rw [getElem?_counts hy, Option.some.injEq] at hn
    rw [← hm, ← hn, hchannel]
    exact count_mono hle _
  case nan_eq_zero =>
    intro i hnan
    rw [getElem?_counts hnan, count_nan]
  case infinity_eq =>
    intro i hinf
    rw [getElem?_counts hinf, count_infinity]
  case le_steps =>
    intro n hn
    obtain ⟨i, hi, rfl⟩ := List.mem_mapIdx.1 hn
    refine Nat.le_trans List.countP_le_length (Nat.le_of_eq ?_)
    exact t.length_row (channelAt_lt t.rows_pos run i)
  case perm =>
    intro thresholds' hsame
    rw [hsame.multiThreshold_eq htable hrun, h]

/-- Two batches of two channels with one place each; one element is infinite, and one is not a
number. -/
def mixedData : Operand where
  values := [.ofNat .binary32 3, .infinity false, .ofNat .binary32 1, .nan]
  shape := ⟨[2, 2]⟩
  elementType := .float32

/-- Rows that are not sorted. In the first one a threshold stands twice, in the second one is not a
number. -/
def unsortedRows : Operand where
  values := [.ofNat .binary32 3, .ofInt .binary32 (-1), .ofNat .binary32 3,
    .infinity true, .nan, .ofNat .binary32 2]
  shape := ⟨[2, 3]⟩
  elementType := .float32

theorem stepCounts_of_multiThreshold_mixedData :
    multiThreshold mixedData unsortedRows (.ofInt .binary64 (-1)) =
        .ok ([2, 1, 0, -1].map (.ofInt .binary32)) ∧
      ∃ t run counts, StepCounts mixedData unsortedRows (.ofInt .binary64 (-1))
        ([2, 1, 0, -1].map (.ofInt .binary32)) t run counts := by
  have hvalues : multiThreshold mixedData unsortedRows (.ofInt .binary64 (-1)) =
      .ok ([2, 1, 0, -1].map (.ofInt .binary32)) := by decide +kernel
  exact ⟨hvalues, stepCounts_of_multiThreshold hvalues⟩

end Kernel

end Thresholding
