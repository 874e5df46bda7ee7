import Mathlib.Data.List.Basic

/-!
# Thresholding.Proofs.Text.Delimited

**Texts that show where they end.**

A text is self-delimiting if it tells its value from every other one whatever stands behind it. The
digits of a number are not: they have to be followed by something else (`DelimitedBy`). Between
brackets, with commas between them, such texts make a self-delimiting one (`selfDelimiting_listed`).
-/

namespace Thresholding

variable {α : Type} {write : α → String} {a b : α} {as bs : List α} {ends rest rest' : List Char}
  {close : Char}

/-- The text of a value tells it from every other value and where it ends, whatever follows. -/
def SelfDelimiting (write : α → String) (a : α) : Prop :=
  ∀ ⦃b : α⦄ ⦃rest rest' : List Char⦄,
    (write a).toList ++ rest = (write b).toList ++ rest' → a = b ∧ rest = rest'

/-- A text starts with one of some characters. -/
def StartsIn (ends rest : List Char) : Prop := ∃ c ∈ ends, ∃ tail, rest = c :: tail

/-- The same as `SelfDelimiting` if what follows starts with one of some characters. -/
def DelimitedBy (ends : List Char) (write : α → String) (a : α) : Prop :=
  ∀ ⦃b : α⦄ ⦃rest rest' : List Char⦄, StartsIn ends rest → StartsIn ends rest' →
    (write a).toList ++ rest = (write b).toList ++ rest' → a = b ∧ rest = rest'

theorem SelfDelimiting.delimitedBy (h : SelfDelimiting write a) (ends : List Char) :
    DelimitedBy ends write a :=
  fun _ _ _ _ _ heq => h heq

/-- Nothing has to follow. -/
theorem SelfDelimiting.eq (h : SelfDelimiting write a) (heq : write a = write b) : a = b :=
  (h (congrArg (fun text : String => text.toList ++ []) heq)).1

/-- A text that starts no other one, and that no other one starts, is self-delimiting. -/
theorem selfDelimiting_of_prefix
    (h : ∀ b, (write a).toList <+: (write b).toList ∨ (write b).toList <+: (write a).toList → a = b) :
    SelfDelimiting write a := by
  intro b rest rest' heq
  have hprefix : (write b).toList <+: (write a).toList ++ rest := heq ▸ List.prefix_append _ _
  obtain rfl := h b (List.prefix_or_prefix_of_prefix (List.prefix_append _ rest) hprefix)
  exact ⟨rfl, List.append_cancel_left heq⟩

/-! ### Lists -/

/-- What stands behind the first of several values. -/
def tailText (write : α → String) (as : List α) : List Char :=
  as.flatMap fun a => ',' :: ' ' :: (write a).toList

theorem toList_intercalate_cons (write : α → String) (a : α) (as : List α) :
    (", ".intercalate ((a :: as).map write)).toList = (write a).toList ++ tailText write as := by
  induction as generalizing a with
  | nil => simp [tailText]
  | cons b as ih =>
      rw [List.map_cons, List.map_cons, String.intercalate_cons_cons, ← List.map_cons,
        String.toList_append, ih, tailText, tailText, List.flatMap_cons]
      simp

theorem startsIn_tailText (write : α → String) (as : List α) :
    StartsIn [',', close] (tailText write as ++ close :: rest) := by
  cases as with
  | nil => exact ⟨close, by simp, rest, rfl⟩
  | cons a as => exact ⟨',', by simp, _, rfl⟩

/-- The first value is told from every other one by what stands behind it. -/
theorem DelimitedBy.head_inj (ha : DelimitedBy [',', close] write a)
    (heq : (write a).toList ++ (tailText write as ++ close :: rest) =
      (write b).toList ++ (tailText write bs ++ close :: rest')) :
    a = b ∧ tailText write as ++ close :: rest = tailText write bs ++ close :: rest' :=
  ha (startsIn_tailText write as) (startsIn_tailText write bs) heq

/-- The values behind the first one are told apart up to the closing bracket. -/
theorem tailText_inj (hcomma : close ≠ ',') (has : ∀ a ∈ as, DelimitedBy [',', close] write a)
    (heq : tailText write as ++ close :: rest = tailText write bs ++ close :: rest') :
    as = bs ∧ rest = rest' := by
  induction as generalizing bs with
  | nil =>
      cases bs with
      | nil => exact ⟨rfl, (List.cons.inj heq).2⟩
      | cons b bs => exact absurd (List.cons.inj heq).1 hcomma
  | cons a as ih =>
      cases bs with
      | nil => exact absurd (List.cons.inj heq).1.symm hcomma
      | cons b bs =>
          have hrest := fun e he => has e (List.mem_cons_of_mem _ he)
          have hhead : (write a).toList ++ (tailText write as ++ close :: rest) =
              (write b).toList ++ (tailText write bs ++ close :: rest') := by
            simpa [tailText] using heq
          obtain ⟨rfl, htail⟩ := (has a List.mem_cons_self).head_inj hhead
          obtain ⟨rfl, hrest⟩ := ih hrest htail
          exact ⟨rfl, hrest⟩

/-- Where the closing bracket comes at once, there are no values. -/
theorem close_ne_toList_intercalate
    (hstart : ∀ a, ∃ c tail, (write a).toList = c :: tail ∧ c ≠ close) (a : α) (as : List α) :
    close :: rest ≠ (", ".intercalate ((a :: as).map write)).toList ++ close :: rest' := by
  obtain ⟨c, tail, htext, hc⟩ := hstart a
  rw [toList_intercalate_cons, htext]
  intro heq
  exact hc (List.cons.inj heq).1.symm

/-- **A list between brackets is self-delimiting** if the texts of its values are delimited by
commas and the closing bracket. None may start with that bracket: the list may be empty. -/
theorem selfDelimiting_listed {opening closing : String} (hclosing : closing.toList = [close])
    (hcomma : close ≠ ',') (hstart : ∀ a, ∃ c tail, (write a).toList = c :: tail ∧ c ≠ close)
    (has : ∀ a ∈ as, DelimitedBy [',', close] write a) :
    SelfDelimiting (fun as => opening ++ ", ".intercalate (as.map write) ++ closing) as := by
  intro bs rest rest' heq
  simp only [String.toList_append, hclosing, List.append_assoc, List.append_cancel_left_eq,
    List.singleton_append] at heq
  have hempty : (", ".intercalate (([] : List α).map write)).toList = [] := by simp
  cases as with
  | nil =>
      rw [hempty, List.nil_append] at heq
      cases bs with
      | nil =>
          rw [hempty, List.nil_append] at heq
          exact ⟨rfl, (List.cons.inj heq).2⟩
      | cons b bs => exact absurd heq (close_ne_toList_intercalate hstart b bs)
  | cons a as =>
      cases bs with
      | nil =>
          rw [hempty, List.nil_append] at heq
          exact absurd heq.symm (close_ne_toList_intercalate hstart a as)
      | cons b bs =>
          rw [toList_intercalate_cons, toList_intercalate_cons, List.append_assoc,
            List.append_assoc] at heq
          obtain ⟨rfl, htail⟩ := (has a List.mem_cons_self).head_inj heq
          obtain ⟨rfl, hrest⟩ := tailText_inj hcomma
            (fun e he => has e (List.mem_cons_of_mem _ he)) htail
          exact ⟨rfl, hrest⟩

/-! ### Numbers -/

theorem takeWhile_isDigit_append {n : Nat} (hends : ∀ c ∈ ends, c.isDigit = false)
    (hrest : StartsIn ends rest) :
    (Nat.toDigits 10 n ++ rest).takeWhile Char.isDigit = Nat.toDigits 10 n := by
  obtain ⟨c, hc, tail, rfl⟩ := hrest
  have hdigits : ∀ d ∈ Nat.toDigits 10 n, d.isDigit = true := fun d hd =>
    Nat.isDigit_of_mem_toDigits (by decide) (by decide) hd
  have hdigit : ¬ c.isDigit = true := by simp [hends c hc]
  rw [List.takeWhile_append_of_pos hdigits, List.takeWhile_cons_of_neg hdigit, List.append_nil]

/-- The digits of a number end where something else follows. -/
theorem delimitedBy_nat (hends : ∀ c ∈ ends, c.isDigit = false) (n : Nat) :
    DelimitedBy ends (fun n : Nat => toString n) n := by
  intro m rest rest' hrest hrest' heq
  simp only [Nat.toString_eq_repr, Nat.toList_repr] at heq
  have hdigits : Nat.toDigits 10 n = Nat.toDigits 10 m := by
    rw [← takeWhile_isDigit_append hends hrest, heq, takeWhile_isDigit_append hends hrest']
  rw [hdigits] at heq
  refine ⟨?_, List.append_cancel_left heq⟩
  rw [← Nat.ofDigitChars_ten_toDigits (n := n), hdigits, Nat.ofDigitChars_ten_toDigits]

/-- The first character of a number is a digit. -/
theorem exists_digit_toString (n : Nat) :
    ∃ d tail, (toString n).toList = d :: tail ∧ d.isDigit = true := by
  rw [Nat.toString_eq_repr, Nat.toList_repr]
  cases hdigits : Nat.toDigits 10 n with
  | nil =>
      have hpos := Nat.length_toDigits_pos (b := 10) (n := n)
      rw [hdigits] at hpos
      exact absurd hpos (by decide)
  | cons d tail =>
      have hd : d ∈ Nat.toDigits 10 n := hdigits ▸ List.mem_cons_self
      exact ⟨d, tail, rfl, Nat.isDigit_of_mem_toDigits (by decide) (by decide) hd⟩

theorem toString_ofNat (n : Nat) : toString (Int.ofNat n) = toString n := rfl

theorem toList_toString_negSucc (n : Nat) :
    (toString (Int.negSucc n)).toList = '-' :: (toString (n + 1)).toList := by
  rw [show toString (Int.negSucc n) = "-" ++ toString (n + 1) from rfl, String.toList_append]
  rfl

/-- A number is not written like one with a minus sign. -/
theorem toString_append_ne_minus (n : Nat) (tail : List Char) :
    (toString n).toList ++ rest ≠ '-' :: tail := by
  obtain ⟨d, digits, htext, hd⟩ := exists_digit_toString n
  rw [htext]
  intro heq
  rw [(List.cons.inj heq).1] at hd
  exact absurd hd (by decide)

/-- The digits of an integer end where something else follows. -/
theorem delimitedBy_int (hends : ∀ c ∈ ends, c.isDigit = false) (i : Int) :
    DelimitedBy ends (fun i : Int => toString i) i := by
  intro j rest rest' hrest hrest' heq
  dsimp only at heq
  cases i with
  | ofNat m =>
      rw [toString_ofNat] at heq
      cases j with
      | ofNat n =>
          obtain ⟨rfl, hrest⟩ := delimitedBy_nat hends m hrest hrest' heq
          exact ⟨rfl, hrest⟩
      | negSucc n =>
          rw [toList_toString_negSucc, List.cons_append] at heq
          exact absurd heq (toString_append_ne_minus m _)
  | negSucc m =>
      rw [toList_toString_negSucc, List.cons_append] at heq
      cases j with
      | ofNat n => exact absurd heq.symm (toString_append_ne_minus n _)
      | negSucc n =>
          rw [toList_toString_negSucc, List.cons_append] at heq
          obtain ⟨hsucc, hrest⟩ := delimitedBy_nat hends (m + 1) hrest hrest' (List.cons.inj heq).2
          obtain rfl := Nat.succ.inj hsucc
          exact ⟨rfl, hrest⟩

/-- The text of an integer starts with a digit or a minus sign. -/
theorem exists_start_toString (i : Int) :
    ∃ c tail, (toString i).toList = c :: tail ∧ (c.isDigit = true ∨ c = '-') := by
  cases i with
  | ofNat n =>
      obtain ⟨d, tail, htext, hd⟩ := exists_digit_toString n
      exact ⟨d, tail, htext, Or.inl hd⟩
  | negSucc n => exact ⟨'-', _, toList_toString_negSucc n, Or.inr rfl⟩

end Thresholding
