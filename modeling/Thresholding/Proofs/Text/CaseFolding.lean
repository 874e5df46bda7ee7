import Mathlib.Data.List.Forall2
import Thresholding.Text.LowerCase

/-!
# Thresholding.Proofs.Text.CaseFolding

**Which texts have a given word as their lower-case form.**

Outside ASCII nearly every character has a lower-case form outside ASCII (`CaseRun.table_cases`).
The two exceptions are `U+0130`, which becomes an `i` with a combining dot behind it, and `U+212A`,
which becomes a plain `k`. So an ASCII word without `k` is the lower-case form of those texts alone
that the folding of ASCII letters takes to it (`LowersTo.eq_iff`).

At the end of a word a capital sigma has a lower-case form of its own. `LowersTo` leaves open which
of its two forms a sigma takes, and what is shown holds for each.
-/

namespace Thresholding

variable {c d : Char} {text lowered word form : List Char} {code : Nat} {run : CaseRun}

/-! ### Case variants -/

/-- An ASCII capital, and its small letter 32 code points further on. -/
def IsCapitalOf (capital small : Char) : Prop :=
  'A' ≤ capital ∧ capital ≤ 'Z' ∧ small.toNat = capital.toNat + 32

/-- Two characters that are the same, or the two cases of one ASCII letter. -/
def SameLetter (c d : Char) : Prop := c = d ∨ IsCapitalOf c d ∨ IsCapitalOf d c

/-- Two texts that differ at most in the case of ASCII letters. -/
def CaseVariant (s t : String) : Prop := List.Forall₂ SameLetter s.toList t.toList

theorem isUpper_iff : c.isUpper = true ↔ 'A' ≤ c ∧ c ≤ 'Z' := decide_eq_true_iff

theorem isLower_iff : c.isLower = true ↔ 'a' ≤ c ∧ c ≤ 'z' := by
  change (decide ('a' ≤ c) && decide (c ≤ 'z')) = true ↔ _
  rw [Bool.and_eq_true, decide_eq_true_eq, decide_eq_true_eq]

theorem toNat_toLower_of_isUpper (h : c.isUpper = true) : c.toLower.toNat = c.toNat + 32 := by
  have hcapital : c.val ≥ 'A'.val ∧ c.val ≤ 'Z'.val := isUpper_iff.1 h
  have hle : c.toNat ≤ 90 := hcapital.2
  have hlower : c.toLower.val = c.val + 32 := congrArg Char.val (dif_pos hcapital)
  change c.toLower.val.toNat = c.val.toNat + 32
  rw [hlower]
  rw [UInt32.toNat_add]
  exact Nat.mod_eq_of_lt (by change c.toNat + 32 < _; omega)

theorem toLower_of_not_isUpper (h : ¬ c.isUpper) : c.toLower = c :=
  dif_neg (mt isUpper_iff.2 h)

/-- Folding takes a character to one that is no capital exactly if they are the same letter. -/
theorem toLower_eq_iff (hd : ¬ d.isUpper) : c.toLower = d ↔ SameLetter c d := by
  have hcapital : ¬ IsCapitalOf d c := fun h => hd (isUpper_iff.2 ⟨h.1, h.2.1⟩)
  by_cases hc : c.isUpper
  · have hlower := toNat_toLower_of_isUpper hc
    constructor
    · rintro rfl
      exact Or.inr (Or.inl ⟨(isUpper_iff.1 hc).1, (isUpper_iff.1 hc).2, hlower⟩)
    · rintro (rfl | ⟨-, -, hsmall⟩ | h)
      · exact absurd hc hd
      · rw [← Char.toNat_inj, hlower, hsmall]
      · exact absurd h hcapital
  · rw [toLower_of_not_isUpper hc]
    refine ⟨Or.inl, ?_⟩
    rintro (h | ⟨hA, hZ, -⟩ | h)
    · exact h
    · exact absurd (isUpper_iff.2 ⟨hA, hZ⟩) hc
    · exact absurd h hcapital

/-- The texts that folding takes to a word without capitals are its case variants. -/
theorem map_toLower_eq_iff (hword : ∀ d ∈ word, ¬ d.isUpper) :
    text.map Char.toLower = word ↔ List.Forall₂ SameLetter text word := by
  induction word generalizing text with
  | nil => rw [List.map_eq_nil_iff, List.forall₂_nil_right_iff]
  | cons d word ih =>
      have hd : ¬ d.isUpper := hword d List.mem_cons_self
      have hrest := fun e he => hword e (List.mem_cons_of_mem _ he)
      cases text with
      | nil => simp
      | cons c text =>
          rw [List.map_cons, List.cons.injEq, List.forall₂_cons, toLower_eq_iff hd, ih hrest]

/-- A character that is no letter is no variant of another. -/
theorem sameLetter_iff_eq (hd : d.isAlpha = false) : SameLetter c d ↔ c = d := by
  obtain ⟨hupper, hlower⟩ := Bool.or_eq_false_iff.1 hd
  refine ⟨?_, Or.inl⟩
  rintro (h | ⟨hA, hZ, hsmall⟩ | ⟨hA, hZ, -⟩)
  · exact h
  · -- the small letter of a capital is a letter
    have hsmaller : 65 ≤ c.toNat := hA
    have hgreater : c.toNat ≤ 90 := hZ
    have ha : 'a' ≤ d := by change 97 ≤ d.toNat; omega
    have hz : d ≤ 'z' := by change d.toNat ≤ 122; omega
    exact absurd (isLower_iff.2 ⟨ha, hz⟩) (by rw [hlower]; decide)
  · exact absurd (isUpper_iff.2 ⟨hA, hZ⟩) (by rw [hupper]; decide)

/-- A variant of an ASCII character is one. -/
theorem SameLetter.toNat_lt (h : SameLetter c d) (hd : d.toNat < 128) : c.toNat < 128 := by
  rcases h with rfl | ⟨-, hle, -⟩ | ⟨-, hle, hsmall⟩
  · exact hd
  · have hcode : c.toNat ≤ 90 := hle
    omega
  · have hcode : d.toNat ≤ 90 := hle
    omega

/-- A variant of an ASCII text has no character beyond ASCII. -/
theorem CaseVariant.toNat_lt {s t : String} (h : CaseVariant s t)
    (ht : ∀ d ∈ t.toList, d.toNat < 128) : ∀ c ∈ s.toList, c.toNat < 128 := by
  intro c hc
  obtain ⟨i, hi, rfl⟩ := List.getElem_of_mem hc
  have hi' : i < t.toList.length := h.length_eq ▸ hi
  exact (h.get hi hi').toNat_lt (ht _ (List.getElem_mem hi'))

/-! ### Lower-case forms of characters -/

/-- A run beyond ASCII with its lower-case forms beyond ASCII too, all of them characters. -/
structure CaseRun.Foreign (run : CaseRun) : Prop where
  /-- The first character is no ASCII character. -/
  first : 128 ≤ run.first
  /-- Neither is its lower-case form. -/
  lower : 128 ≤ run.lower
  /-- The lower-case forms are code points of characters. -/
  valid : run.lower + (run.last - run.first) < 0xD800 ∨
    0xDFFF < run.lower ∧ run.lower + (run.last - run.first) < 0x110000

instance (run : CaseRun) : Decidable run.Foreign :=
  decidable_of_iff (128 ≤ run.first ∧ 128 ≤ run.lower ∧
      (run.lower + (run.last - run.first) < 0xD800 ∨
        0xDFFF < run.lower ∧ run.lower + (run.last - run.first) < 0x110000))
    ⟨fun h => ⟨h.1, h.2.1, h.2.2⟩, fun h => ⟨h.first, h.lower, h.valid⟩⟩

/-- **The table beyond ASCII.** But for the ASCII letters and `U+212A`, all runs are foreign. -/
theorem CaseRun.table_cases : ∀ run ∈ table,
    run = ⟨0x41, 0x5A, 1, 0x61⟩ ∨ run = ⟨0x212A, 0x212A, 1, 0x6B⟩ ∨ run.Foreign := by
  decide +kernel

theorem CaseRun.covers_iff : run.covers code = true ↔
    run.first ≤ code ∧ code ≤ run.last ∧ (code - run.first) % run.step = 0 := by
  simp only [covers, Bool.and_eq_true, decide_eq_true_eq, beq_iff_eq, and_assoc]

theorem toNat_ofNat_of_isValidChar (h : code.isValidChar) : (Char.ofNat code).toNat = code := by
  rw [Char.ofNat, dif_pos h]
  rfl

/-- A character of a foreign run has a lower-case form beyond ASCII. -/
theorem CaseRun.Foreign.le_toNat_image (h : run.Foreign) (hcode : run.covers code = true) :
    128 ≤ (Char.ofNat (run.image code)).toNat := by
  obtain ⟨hfirst, hlast, -⟩ := covers_iff.1 hcode
  have hlower := h.lower
  have hvalid : (run.image code).isValidChar := by
    rcases h.valid with hlt | ⟨hgt, hlt⟩
    · exact Or.inl (by unfold image; omega)
    · exact Or.inr ⟨by unfold image; omega, by unfold image; omega⟩
  rw [toNat_ofNat_of_isValidChar hvalid, image]
  omega

/-- The lower-case form of a character is that of its run in the table, if it has one. -/
theorem lowerCaseChar_cases (hdot : c ≠ '\u0130') :
    (∃ run ∈ CaseRun.table, run.covers c.toNat = true ∧
      lowerCaseChar c = [Char.ofNat (run.image c.toNat)]) ∨
    (∀ run ∈ CaseRun.table, ¬ run.covers c.toNat) ∧ lowerCaseChar c = [c] := by
  rw [lowerCaseChar, if_neg hdot]
  split
  · next run hrun =>
      have hcovers := List.find?_some hrun
      exact Or.inl ⟨run, List.mem_of_find?_eq_some hrun, hcovers, rfl⟩
  · next hnone => exact Or.inr ⟨List.find?_eq_none.1 hnone, rfl⟩

/-- The lower-case form of an ASCII character is its folding. -/
theorem lowerCaseChar_of_ascii (h : c.toNat < 128) : lowerCaseChar c = [c.toLower] := by
  have hdot : c ≠ '\u0130' := by
    rintro rfl
    exact absurd h (by decide)
  rcases lowerCaseChar_cases hdot with ⟨run, hrun, hcovers, hform⟩ | ⟨hnone, hform⟩
  · obtain ⟨hfirst, hlast, -⟩ := CaseRun.covers_iff.1 hcovers
    rcases CaseRun.table_cases run hrun with rfl | rfl | hforeign
    · have hupper : c.isUpper = true := isUpper_iff.2 ⟨hfirst, hlast⟩
      have himage : CaseRun.image ⟨0x41, 0x5A, 1, 0x61⟩ c.toNat = c.toNat + 32 := by
        dsimp only [CaseRun.image] at hfirst ⊢
        omega
      rw [hform, himage, ← toNat_toLower_of_isUpper hupper, Char.ofNat_toNat]
    · dsimp only at hfirst
      omega
    · have hle := hforeign.first
      omega
  · have hupper : ¬ c.isUpper := fun hupper => by
      obtain ⟨hA, hZ⟩ := isUpper_iff.1 hupper
      exact hnone ⟨0x41, 0x5A, 1, 0x61⟩ (by decide) (CaseRun.covers_iff.2 ⟨hA, hZ, Nat.mod_one _⟩)
    rw [hform, toLower_of_not_isUpper hupper]

/-- The lower-case form of another character is beyond ASCII or has a `k`. -/
theorem exists_mem_lowerCaseChar (h : 128 ≤ c.toNat) :
    ∃ d ∈ lowerCaseChar c, 128 ≤ d.toNat ∨ d = 'k' := by
  by_cases hdot : c = '\u0130'
  · subst hdot
    exact ⟨'\u0307', by decide, by decide⟩
  rcases lowerCaseChar_cases hdot with ⟨run, hrun, hcovers, hform⟩ | ⟨-, hform⟩
  · rw [hform]
    refine ⟨_, List.mem_singleton_self _, ?_⟩
    rcases CaseRun.table_cases run hrun with rfl | rfl | hforeign
    · have hlast : c.toNat ≤ 0x5A := (CaseRun.covers_iff.1 hcovers).2.1
      omega
    · obtain ⟨hfirst, hlast, -⟩ := CaseRun.covers_iff.1 hcovers
      have hcode : c.toNat = 0x212A := Nat.le_antisymm hlast hfirst
      exact Or.inr (by rw [hcode]; rfl)
    · exact Or.inl (hforeign.le_toNat_image hcovers)
  · exact ⟨c, by rw [hform]; exact List.mem_singleton_self c, Or.inl h⟩

/-! ### Lower-case forms of texts -/

/-- The lower-case forms that a character has in a text: of a capital sigma there are two. -/
def lowerCaseForms (c : Char) : List (List Char) :=
  if c = 'Σ' then [['σ'], ['ς']] else [lowerCaseChar c]

/-- A lower-case form of a text, with either form of each capital sigma. -/
inductive LowersTo : List Char → List Char → Prop
  /-- The empty text has itself. -/
  | nil : LowersTo [] []
  /-- A form of the first character, and then one of the others. -/
  | cons {c : Char} {text form lowered : List Char} :
      form ∈ lowerCaseForms c → LowersTo text lowered → LowersTo (c :: text) (form ++ lowered)

theorem lowerCaseChar_mem_forms (c : Char) : lowerCaseChar c ∈ lowerCaseForms c := by
  unfold lowerCaseForms
  split
  · next hsigma =>
      subst hsigma
      decide
  · exact List.mem_singleton_self _

/-- The lower-case form of a text is one of them. -/
theorem lowersTo_lowerCase (text : List Char) : LowersTo text (lowerCase text) := by
  induction text with
  | nil => exact .nil
  | cons c text ih => exact .cons (lowerCaseChar_mem_forms c) ih

/-- An ASCII character has its folding, and another has forms that are beyond ASCII or have a
`k`. -/
theorem lowerCaseForms_cases (h : form ∈ lowerCaseForms c) :
    c.toNat < 128 ∧ form = [c.toLower] ∨
    128 ≤ c.toNat ∧ ∃ d ∈ form, 128 ≤ d.toNat ∨ d = 'k' := by
  unfold lowerCaseForms at h
  split at h
  · next hsigma =>
      subst hsigma
      have hform : form = ['σ'] ∨ form = ['ς'] := by simpa using h
      refine Or.inr ⟨by decide, ?_⟩
      rcases hform with rfl | rfl
      · exact ⟨_, List.mem_singleton_self _, by decide⟩
      · exact ⟨_, List.mem_singleton_self _, by decide⟩
  · obtain rfl := List.mem_singleton.1 h
    rcases Nat.lt_or_ge c.toNat 128 with hascii | hforeign
    · exact Or.inl ⟨hascii, lowerCaseChar_of_ascii hascii⟩
    · exact Or.inr ⟨hforeign, exists_mem_lowerCaseChar hforeign⟩

/-- **The lower-case forms of a text on ASCII words without `k`** are what the folding of ASCII
letters makes of it. -/
theorem LowersTo.eq_iff (h : LowersTo text lowered)
    (hword : ∀ d ∈ word, d.toNat < 128 ∧ d ≠ 'k') :
    lowered = word ↔ text.map Char.toLower = word := by
  induction h generalizing word with
  | nil => rfl
  | @cons c text form lowered hform _ ih =>
      rcases lowerCaseForms_cases hform with ⟨-, rfl⟩ | ⟨hforeign, d, hd, hbeyond⟩
      · cases word with
        | nil => simp
        | cons d word =>
            have hrest := fun e he => hword e (List.mem_cons_of_mem _ he)
            rw [List.singleton_append, List.map_cons, List.cons.injEq, List.cons.injEq, ih hrest]
      · -- neither the form of the character nor the character itself occurs in the word
        refine iff_of_false (fun heq => ?_) fun heq => ?_
        · obtain ⟨hascii, hk⟩ := hword d (heq ▸ List.mem_append_left _ hd)
          exact hbeyond.elim (fun hle => absurd hascii (Nat.not_lt.2 hle)) hk
        · have hupper : ¬ c.isUpper := fun hupper => by
            have hle : c.toNat ≤ 90 := (isUpper_iff.1 hupper).2
            omega
          have hmem : c ∈ word := by
            rw [← heq, List.map_cons, toLower_of_not_isUpper hupper]
            exact List.mem_cons_self
          exact absurd (hword c hmem).1 (Nat.not_lt.2 hforeign)

/-- With a `k` the word would have another text: the first letter here is `U+212A`. -/
example : lowerCase ['\u212A', 'O'] = ['k', 'o'] ∧ lowerCase ['\u0130'] = ['i', '\u0307'] := by
  decide

end Thresholding
