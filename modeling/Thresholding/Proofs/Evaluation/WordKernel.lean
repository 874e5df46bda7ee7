import Thresholding.Proofs.Evaluation.Kernel

/-!
# Thresholding.Proofs.Evaluation.WordKernel

**The reference kernel on a machine.** The kernel counts in natural numbers, where a product is never
too large, a division by zero has a result and a piece of a list may lie outside of it. Here it is
computed once more in words of 64 bits, step by step, and a step that a machine cannot take ends the
computation: a sum or product that is no word, a divisor zero, a piece that is not all there.

Two conversions are where words could part from numbers. A dimension becomes a word by its bits, so a
negative one becomes a large number of channels. And the rank of a shape is counted in 32 bits with a
sign.

The computation never ends in such a step (`inWords_eq`). Every bound comes from the table of
thresholds: it has as many entries as its shape says, and these can be counted in words. The number
of data values has no part in it. So there is an answer exactly to the operands that pass the checks
(`exists_multiThreshold_iff_takes`).
-/

namespace Thresholding

namespace Kernel

/-- What a computation in words may end with instead of a result. -/
inductive Stop
  /-- The answer that the kernel gives to operands it does not take. -/
  | refused (cause : EvalError)
  /-- A sum or product is no word. -/
  | overflow
  /-- A divisor is zero. -/
  | divisionByZero
  /-- A place outside of a list is read. -/
  | outOfBounds
  deriving Repr, DecidableEq

/-! ### Steps in words

A word is a number below `addressable`. -/

namespace Word

/-- The sum of two words. -/
def add (a b : Nat) : Except Stop Nat := if a + b < addressable then .ok (a + b) else .error .overflow

/-- The product of two words. -/
def mul (a b : Nat) : Except Stop Nat := if a * b < addressable then .ok (a * b) else .error .overflow

/-- The quotient of two words. -/
def div (a b : Nat) : Except Stop Nat := if b = 0 then .error .divisionByZero else .ok (a / b)

/-- The remainder of two words. -/
def rem (a b : Nat) : Except Stop Nat := if b = 0 then .error .divisionByZero else .ok (a % b)

/-- The member of a list at a place. -/
def read {α : Type} (xs : List α) (place : Nat) : Except Stop α :=
  match xs[place]? with
  | some x => .ok x
  | none => .error .outOfBounds

/-- The piece of a list from one place up to another. -/
def slice {α : Type} (xs : List α) (first last : Nat) : Except Stop (List α) :=
  if first ≤ last ∧ last ≤ xs.length then .ok ((xs.take last).drop first) else .error .outOfBounds

/-- The bits of a dimension as a word. -/
def ofDim (d : Int64) : Nat := d.toUInt64.toNat

theorem add_eq_ok {a b : Nat} (h : a + b < addressable) : add a b = .ok (a + b) := if_pos h

theorem mul_eq_ok {a b : Nat} (h : a * b < addressable) : mul a b = .ok (a * b) := if_pos h

theorem div_eq_ok {a b : Nat} (h : b ≠ 0) : div a b = .ok (a / b) := if_neg h

theorem rem_eq_ok {a b : Nat} (h : b ≠ 0) : rem a b = .ok (a % b) := if_neg h

theorem slice_eq_ok {α : Type} {xs : List α} {first last : Nat} (h : first ≤ last)
    (hlast : last ≤ xs.length) : slice xs first last = .ok ((xs.drop first).take (last - first)) := by
  rw [slice, if_pos ⟨h, hlast⟩, List.drop_take]

/-- A dimension that is not negative is the word that it becomes. -/
theorem ofDim_eq {d : Int64} (h : 0 ≤ d.toInt) : ofDim d = d.toInt.toNat := by
  have hbits := d.toBitVec.toInt_eq_toNat_cond
  have hlt := d.toInt_lt
  change 0 ≤ d.toBitVec.toInt at h
  change d.toBitVec.toNat = d.toBitVec.toInt.toNat
  split at hbits <;> omega

/-- Dimensions that become the same word are the same. -/
theorem ofDim_inj {c d : Int64} : ofDim c = ofDim d ↔ c = d := by
  refine ⟨fun h => ?_, fun h => h ▸ rfl⟩
  have hbits : c.toUInt64 = d.toUInt64 := UInt64.toNat_inj.1 h
  cases c
  cases d
  exact congrArg Int64.ofUInt64 hbits

theorem ofDim_max (d : Int64) : ofDim (max d 0) = d.toInt.toNat := by
  have hmax : max d 0 = if d ≤ 0 then 0 else d := rfl
  have hle : d ≤ 0 ↔ d.toInt ≤ 0 := by rw [Int64.le_iff_toInt_le, Int64.toInt_zero]
  rw [hmax]
  split
  · next h => rw [Int.toNat_of_nonpos (hle.1 h)]; rfl
  · next h =>
      have hpos := mt hle.2 h
      exact ofDim_eq (by omega)

end Word

/-! ### The kernel in words -/

/-- The numbers of rows and of steps of the table that an operand holds. -/
def wordTable (thresholds : Operand) : Except Stop (Nat × Nat) :=
  match thresholds.shape.dims with
  | [rows, steps] =>
    if 0 < rows.toInt ∧ 0 ≤ steps.toInt then
      match Word.mul (Word.ofDim rows) (Word.ofDim steps) with
      | .ok size =>
        if thresholds.values.length = size then .ok (Word.ofDim rows, Word.ofDim steps)
        else .error (.refused
          (.shapeMismatch thresholds.shape.extents [thresholds.values.length]))
      -- the one product that is tried first
      | .error _ => .error (.refused (.thresholdsTooLarge thresholds.shape))
    else .error (.refused (.badThresholdsShape thresholds.shape))
  | _ => .error (.refused (.badThresholdsShape thresholds.shape))

/-- The dimension at the axis of the channels, if the rank has that axis. -/
def wordChannels (data : Shape) : Except Stop (Option Int64) :=
  if 1 < (Int32.ofNat data.rank).toInt then some <$> Word.read data.dims 1 else .ok none

/-- The number of consecutive elements of the data that share a channel. -/
def wordRun (rows : Nat) (data : Shape) : Except Stop Nat :=
  if rows = 1 then .ok 1
  else do
    let mismatch : Except Stop Nat := .error (.refused (.shapeMismatch [-1, rows] data.extents))
    match ← wordChannels data with
    | some channels =>
      if Word.ofDim channels = rows then
        match checkedProduct (← Word.slice data.dims 2 data.rank) with
        | some run => .ok (Word.ofDim (max run 0))
        | none => .error (.refused (.dataTooLarge data))
      else mismatch
    | none => mismatch

/-- The channel of the element at a flat index. -/
def wordChannel (rows run index : Nat) : Except Stop Nat :=
  if rows = 1 then .ok 0 else do Word.rem (← Word.div index (max run 1)) rows

/-- The row of a channel. -/
def wordRow (entries : Buffer) (steps channel : Nat) : Except Stop Buffer := do
  let first ← Word.mul channel steps
  let last ← Word.mul (← Word.add channel 1) steps
  Word.slice entries first last

/-- The number of thresholds that a value is not below, counted one by one. -/
def wordCount (x : Single) (row : Buffer) : Except Stop Nat :=
  row.foldlM (fun n t => if t.le x then Word.add n 1 else .ok n) 0

/-- The value of the element at a flat index. -/
def wordValue (entries : Buffer) (rows steps run : Nat) (bias : Double) (index : Nat) (x : Single) :
    Except Stop Single := do
  let channel ← wordChannel rows run index
  let row ← wordRow entries steps channel
  return biased (← wordCount x row) bias

/-- The thresholding operator, in words. -/
def inWords (data thresholds : Operand) (bias : Double) : Except Stop Buffer := do
  let (rows, steps) ← wordTable thresholds
  let run ← wordRun rows data.shape
  data.values.zipIdx.mapM fun (x, index) => wordValue thresholds.values rows steps run bias index x

/-! ### The steps are taken -/

variable {data thresholds : Operand}

/-- The table is the same in words. -/
theorem wordTable_eq (thresholds : Operand) : wordTable thresholds =
    (fun t => (t.rows, t.steps)) <$> (table thresholds).mapError .refused := by
  obtain ⟨values, ⟨dims⟩, elementType⟩ := thresholds
  match dims with
  | [] => rfl
  | [_] => rfl
  | _ :: _ :: _ :: _ => rfl
  | [rows, steps] =>
      simp only [wordTable, table]
      by_cases hpos : 0 < rows.toInt ∧ 0 ≤ steps.toInt
      · rw [if_pos hpos, dif_pos hpos, Word.ofDim_eq (Int.le_of_lt hpos.1), Word.ofDim_eq hpos.2]
        by_cases hlarge : addressable ≤ rows.toInt.toNat * steps.toInt.toNat
        · rw [Word.mul, if_neg (Nat.not_lt.2 hlarge), if_pos hlarge]
          rfl
        · rw [Word.mul_eq_ok (Nat.lt_of_not_le hlarge), if_neg hlarge]
          by_cases hfull : values.length = rows.toInt.toNat * steps.toInt.toNat
          · simp only [if_pos hfull, dif_pos hfull]
            rfl
          · simp only [if_neg hfull, dif_neg hfull]
            rfl
      · rw [if_neg hpos, dif_neg hpos]
        rfl

theorem wordChannels_eq {data : Shape} (hrank : data.rank < 2 ^ 31) :
    wordChannels data = .ok (data.dim? 1) := by
  have hcount : (Int32.ofNat data.rank).toInt = data.rank := Int32.toInt_ofNat_of_lt hrank
  have hdim : data.dim? 1 = data.dims[1]? := data.dim?_natCast 1
  rw [wordChannels, hcount, hdim, Word.read]
  by_cases h : 1 < data.dims.length
  · rw [if_pos (by exact_mod_cast h), List.getElem?_eq_getElem h]
    rfl
  · rw [if_neg (by exact_mod_cast h), List.getElem?_eq_none (Nat.not_lt.1 h)]

/-- The elements of a channel are counted in the same way, negative dimensions included. -/
theorem wordRun_eq {rows : Nat} {channels : Int64} {data : Shape} (hrank : data.rank < 2 ^ 31)
    (hrows : (rows : Int) = channels.toInt) :
    wordRun rows data = (channelRun rows data).mapError .refused := by
  unfold wordRun channelRun
  by_cases hone : rows = 1
  · rw [if_pos hone, if_pos hone]
    rfl
  · rw [if_neg hone, if_neg hone, wordChannels_eq hrank]
    have hword : Word.ofDim channels = rows := by rw [Word.ofDim_eq (by omega)]; omega
    cases hdim : data.dim? 1 with
    | none => rfl
    | some c =>
        have hc : Word.ofDim c = rows ↔ c.toInt = rows := by
          rw [← hword, Word.ofDim_inj, hword, hrows, Int64.toInt_inj]
        have hslice : Word.slice data.dims 2 data.rank = .ok (data.dims.drop 2) := by
          obtain ⟨hlt, -⟩ := List.getElem?_eq_some_iff.1 ((data.dim?_natCast 1).symm.trans hdim)
          have hle : 2 ≤ data.rank := hlt
          have hrest : (data.dims.drop 2).length ≤ data.rank - 2 := by simp [Shape.rank]
          rw [Word.slice_eq_ok hle (Nat.le_refl _), List.take_of_length_le hrest]
        by_cases heq : c.toInt = rows
        · simp only [hc.2 heq, heq, if_true, hslice, bind, Except.bind]
          cases checkedProduct (data.dims.drop 2) with
          | none => rfl
          | some run => exact congrArg Except.ok (Word.ofDim_max run)
        · have hne := mt hc.1 heq
          simp only [bind, Except.bind, if_neg hne, if_neg heq]
          rfl

/-- The divisors are positive, an empty or negative run counting as one. -/
theorem wordChannel_eq {rows : Nat} (hrows : 0 < rows) (run index : Nat) :
    wordChannel rows run index = .ok (channelAt rows run index) := by
  unfold wordChannel channelAt
  split
  · rfl
  · rw [Word.div_eq_ok (by omega)]
    exact Word.rem_eq_ok (by omega)

/-- **The row of a channel is read within the table**, and the entries up to its end can be counted in
words. -/
theorem wordRow_eq (t : Table) (hsize : t.rows * t.steps < addressable)
    (hrows : t.rows < addressable) {channel : Nat} (h : channel < t.rows) :
    wordRow t.entries t.steps channel = .ok (t.row channel) := by
  have hend : (channel + 1) * t.steps ≤ t.rows * t.steps := Nat.mul_le_mul_right _ h
  have hstart : channel * t.steps ≤ (channel + 1) * t.steps :=
    Nat.mul_le_mul_right _ (Nat.le_succ _)
  have hfirst := Word.mul_eq_ok (Nat.lt_of_le_of_lt (hstart.trans hend) hsize)
  have hnext : Word.add channel 1 = .ok (channel + 1) := Word.add_eq_ok (by omega)
  have hlast := Word.mul_eq_ok (Nat.lt_of_le_of_lt hend hsize)
  have hslice := Word.slice_eq_ok hstart (hend.trans (Nat.le_of_eq t.length_entries.symm))
  rw [← Nat.sub_mul, Nat.add_sub_cancel_left, Nat.one_mul] at hslice
  rw [wordRow, hfirst, hnext]
  show (Word.mul (channel + 1) t.steps >>= Word.slice t.entries (channel * t.steps)) = _
  rw [hlast]
  exact hslice

/-- A count is never above the number of thresholds that were counted. -/
theorem foldlM_wordCount (x : Single) {row : Buffer} {n : Nat} (h : n + row.length < addressable) :
    row.foldlM (fun n t => if t.le x then Word.add n 1 else .ok n) n = .ok (n + count x row) := by
  -- the start is left general: what is counted and what is to come have room together
  induction row generalizing n with
  | nil => rfl
  | cons t row ih =>
      rw [List.length_cons] at h
      simp only [List.foldlM_cons, count, List.countP_cons]
      cases hle : t.le x with
      | true =>
          rw [if_pos rfl, if_pos rfl, Word.add_eq_ok (by omega)]
          show row.foldlM _ (n + 1) = _
          rw [ih (by omega), count]
          exact congrArg Except.ok (by omega)
      | false =>
          rw [if_neg Bool.false_ne_true, if_neg Bool.false_ne_true]
          exact ih (by omega)

theorem wordCount_eq (x : Single) (row : Buffer) (h : row.length < addressable) :
    wordCount x row = .ok (count x row) := by
  rw [wordCount, foldlM_wordCount x (by omega), Nat.zero_add]

theorem wordValue_eq (t : Table) (hsize : t.rows * t.steps < addressable)
    (hrows : t.rows < addressable) (run index : Nat) (bias : Double) (x : Single) :
    wordValue t.entries t.rows t.steps run bias index x =
      .ok (biased (count x (t.row (channelAt t.rows run index))) bias) := by
  have hchannel := channelAt_lt t.rows_pos run index
  have hrow := wordRow_eq t hsize hrows hchannel
  have hcount := wordCount_eq x (t.row (channelAt t.rows run index)) <| by
    rw [t.length_row hchannel]
    exact Nat.lt_of_le_of_lt (Nat.le_mul_of_pos_left _ t.rows_pos) hsize
  rw [wordValue, wordChannel_eq t.rows_pos]
  show (wordRow t.entries t.steps _ >>= fun row => wordCount x row >>= fun n =>
    pure (biased n bias)) = _
  rw [hrow]
  show (wordCount x _ >>= fun n => pure (biased n bias)) = _
  rw [hcount]
  rfl

/-- So every element has its value. -/
theorem mapM_wordValue_eq (t : Table) (hsize : t.rows * t.steps < addressable)
    (hrows : t.rows < addressable) (run : Nat) (bias : Double) (values : Buffer) :
    (values.zipIdx.mapM fun (x, index) => wordValue t.entries t.rows t.steps run bias index x) =
      .ok (values.mapIdx fun index x =>
        biased (count x (t.row (channelAt t.rows run index))) bias) := by
  rw [List.mapIdx_eq_zipIdx_map]
  exact (mapM_congr fun _ _ => wordValue_eq t hsize hrows run _ bias _).trans List.mapM_pure

/-- **In words the kernel answers what it answers in numbers**, and nothing else happens. -/
theorem inWords_eq (bias : Double) (hrank : data.shape.rank < 2 ^ 31) :
    inWords data thresholds bias = (multiThreshold data thresholds bias).mapError .refused := by
  cases htable : table thresholds with
  | error e =>
      rw [inWords, multiThreshold, wordTable_eq, htable]
      rfl
  | ok t =>
      obtain ⟨channels, _, -, -, hrows, -⟩ := exists_dims_of_table htable
      obtain ⟨-, hentries, hsize⟩ := table_eq_ok_iff.1 htable
      -- a table without steps says nothing of its rows, but they were a dimension
      have hlt : t.rows < addressable := by
        have hdim := channels.toInt_lt
        show t.rows < 2 ^ (64 : Nat)
        omega
      have hvalues := fun run => mapM_wordValue_eq t hsize hlt run bias data.values
      rw [hentries] at hvalues
      calc inWords data thresholds bias
          = wordRun t.rows data.shape >>= fun run => data.values.zipIdx.mapM fun (x, index) =>
              wordValue thresholds.values t.rows t.steps run bias index x := by
            rw [inWords, wordTable_eq, htable]
            rfl
        _ = (channelRun t.rows data.shape).mapError .refused >>= fun run =>
              .ok (data.values.mapIdx fun index x =>
                biased (count x (t.row (channelAt t.rows run index))) bias) := by
            rw [wordRun_eq hrank hrows]
            simp only [hvalues]
        _ = (multiThreshold data thresholds bias).mapError .refused := by
            rw [multiThreshold_of_table htable]
            cases channelRun t.rows data.shape <;> rfl

/-! ### What the guards are worth -/

/-- The operands that the kernel answers, for thresholds with so many channels and steps. -/
structure Takes (data thresholds : Operand) (channels steps : Int64) : Prop where
  /-- The thresholds have two dimensions. -/
  thresholds_dims : thresholds.shape.dims = [channels, steps]
  /-- There is a row. -/
  channels_pos : 0 < channels.toInt
  /-- A row may be empty. -/
  steps_nonneg : 0 ≤ steps.toInt
  /-- The entries can be addressed. -/
  size_lt : channels.toInt * steps.toInt < 2 ^ 64
  /-- They are as many as the shape says. -/
  thresholds_length : (thresholds.values.length : Int) = channels.toInt * steps.toInt
  /-- One row serves any data. More rows need data with as many channels, the elements of which can
  be counted dimension by dimension. -/
  channels_fit : channels.toInt = 1 ∨
    ∃ batch inner, data.shape.dims = batch :: channels :: inner ∧ ProductFits inner

theorem exists_second_iff {dims : List Int64} {channels : Int64} {P : List Int64 → Prop} :
    (dims[1]? = some channels ∧ P (dims.drop 2)) ↔
      ∃ batch inner, dims = batch :: channels :: inner ∧ P inner := by
  match dims with
  | [] => simp
  | [_] => simp
  | batch :: second :: inner =>
      simp only [List.getElem?_cons_succ, List.getElem?_cons_zero, Option.some.injEq,
        List.drop_succ_cons, List.drop_zero, List.cons.injEq]
      constructor
      · rintro ⟨rfl, hinner⟩
        exact ⟨batch, inner, ⟨rfl, rfl, rfl⟩, hinner⟩
      · rintro ⟨_, _, ⟨-, rfl, rfl⟩, hinner⟩
        exact ⟨rfl, hinner⟩

/-- **The operands that the kernel answers** are the ones that it takes. -/
theorem exists_multiThreshold_iff_takes {bias : Double} :
    (∃ values, multiThreshold data thresholds bias = .ok values) ↔
      ∃ channels steps, Takes data thresholds channels steps := by
  simp only [exists_multiThreshold_iff_table, exists_table_iff, Fits, exists_checkedProduct_iff,
    exists_second_iff]
  constructor
  · rintro ⟨⟨channels, steps, hdims, hchannels, hsteps, hsmall, hlength⟩, _, _, hdims', -, hfit⟩
    rw [hdims] at hdims'
    cases hdims'
    exact ⟨channels, steps, hdims, hchannels, hsteps, by exact_mod_cast hsmall, hlength, hfit⟩
  · rintro ⟨channels, steps, h⟩
    exact ⟨⟨channels, steps, h.thresholds_dims, h.channels_pos, h.steps_nonneg,
      by exact_mod_cast h.size_lt, h.thresholds_length⟩,
      channels, steps, h.thresholds_dims, h.channels_pos, h.channels_fit⟩

/-- The guards of the kernel decide whether there is an answer, and leave nothing to go wrong
after them. -/
structure Guarded (data thresholds : Operand) (bias : Double) : Prop where
  /-- No step in words is one that a machine cannot take. -/
  safe : ∀ stop, inWords data thresholds bias = .error stop → ∃ cause, stop = .refused cause
  /-- Computing in words makes no difference. -/
  agrees : inWords data thresholds bias = (multiThreshold data thresholds bias).mapError .refused
  /-- There is an answer exactly to the operands that the kernel takes. -/
  answers : (∃ values, multiThreshold data thresholds bias = .ok values) ↔
    ∃ channels steps, Takes data thresholds channels steps
  /-- The answer has a value for every value of the data. -/
  length_eq : ∀ values, multiThreshold data thresholds bias = .ok values →
    values.length = data.values.length

/-- **The guards are enough**, for operands whose values have nothing to do with their shapes. The rank
of the data has to be one that can be counted. -/
theorem guarded (data thresholds : Operand) (bias : Double) (hrank : data.shape.rank < 2 ^ 31) :
    Guarded data thresholds bias := by
  have hwords : inWords data thresholds bias =
      (multiThreshold data thresholds bias).mapError .refused := inWords_eq bias hrank
  refine ⟨fun stop hstop => ?_, hwords, exists_multiThreshold_iff_takes,
    fun _ => length_of_multiThreshold⟩
  rw [hwords] at hstop
  cases hanswer : multiThreshold data thresholds bias with
  | ok values => rw [hanswer] at hstop; cases hstop
  | error cause =>
      rw [hanswer] at hstop
      cases hstop
      exact ⟨cause, rfl⟩

/-- Three values of a shape that has no number of values, with two channels. -/
def lopsidedData : Operand where
  values := [1, 2, 3].map (.ofNat .binary32)
  shape := ⟨[-3, 2, -1, 0]⟩
  elementType := .float32

/-- The rows `1, 3` and `2, 2`. -/
def twoRows : Operand where
  values := [1, 3, 2, 2].map (.ofNat .binary32)
  shape := ⟨[2, 2]⟩
  elementType := .float32

theorem guarded_lopsidedData :
    lopsidedData.shape.rank < 2 ^ 31 ∧ Guarded lopsidedData twoRows (.ofInt .binary64 0) :=
  ⟨by decide, guarded lopsidedData twoRows _ (by decide)⟩

/-- The channels take turns, a run of no elements counting as one of one element. -/
example : (inWords lopsidedData twoRows (.ofInt .binary64 0)).toOption =
    some ([1, 2, 2].map (.ofInt .binary32)) := by decide +kernel

end Kernel

end Thresholding
