import Thresholding.Domain.Descriptor

/-!
# Thresholding.Proofs.Domain.Grammar

The **grammar of descriptors**, and where a keyword stands in a text.

A descriptor is a keyword and a width, and the keyword starts the text. Reading looks for
the keyword and for the width independently, so in the lenient mode it is not plain that a
keyword further right is never accepted. What settles it is a count: the width is what
follows as many bytes as the keyword has characters, and what is skipped has to hold the
keyword because a width has no letters. Text that holds the keyword in as few bytes *is*
the keyword (`eq_keyword_append`).
-/

namespace Thresholding

/-! ### Byte offsets -/

theorem utf8Size_of_isDigit {c : Char} (h : c.isDigit = true) : c.utf8Size = 1 := by
  rw [Char.utf8Size_eq_one_iff, UInt32.le_iff_toNat_le]
  have hle : c.toNat ≤ 57 := (Char.isDigit_iff_toNat.1 h).2
  exact Nat.le_trans hle (by decide)

namespace ByteSuffix

/-- A text of digits has as many bytes as digits. -/
theorem utf8Length_of_digits {digits : List Char} (h : ∀ c ∈ digits, c.isDigit = true) :
    utf8Length digits = digits.length := by
  induction digits with
  | nil => rfl
  | cons c rest ih =>
      have hrest := ih fun d hd => h d (List.mem_cons_of_mem _ hd)
      rw [utf8Length, hrest, utf8Size_of_isDigit (h c List.mem_cons_self), List.length_cons,
        Nat.add_comm]

/-- A text has no fewer bytes than characters. -/
theorem length_le_utf8Length (text : List Char) : text.length ≤ utf8Length text := by
  induction text with
  | nil => exact Nat.le_refl _
  | cons c rest ih =>
      have hc := c.utf8Size_pos
      rw [List.length_cons, utf8Length]
      omega

theorem isNumeral_iff {s : ByteSuffix} :
    s.isNumeral = true ↔ s.stray = 0 ∧ ∀ c ∈ s.rest, c.isDigit = true := by
  simp only [isNumeral, Bool.and_eq_true, beq_iff_eq, List.all_eq_true]

/-- A suffix that starts with a whole character is what follows `offset` bytes. -/
theorem exists_front_of_drop {offset : Nat} {text : List Char}
    (hstray : (drop offset text).stray = 0) (hrest : (drop offset text).rest ≠ []) :
    ∃ front, text = front ++ (drop offset text).rest ∧ utf8Length front = offset := by
  induction offset, text using drop.induct with
  | case1 text => exact ⟨[], by simp, rfl⟩
  | case2 offset => exact absurd rfl hrest
  | case3 offset c text hle ih =>
      rw [drop, if_pos hle] at hstray hrest ⊢
      obtain ⟨front, htext, hsum⟩ := ih hstray hrest
      refine ⟨c :: front, by rw [List.cons_append, ← htext], ?_⟩
      rw [utf8Length, hsum]
      omega
  | case4 offset c text hlt =>
      -- the offset divides the character, so some of its bytes are stray
      rw [drop, if_neg hlt] at hstray
      dsimp only at hstray
      omega

end ByteSuffix

namespace IntDomain

/-! ### The grammar -/

/-- The descriptors that are legal under a configuration, each with the domain it names: the
keyword, then a width of one or two digits and nothing else. The width is at most 64, and
zero only where the configuration allows it. -/
structure Legal (config : Config) (descriptor : String) (d : IntDomain) : Prop where
  /-- The text is the keyword and the digits of the width. -/
  spelled : ∃ digits, descriptor.toList = keyword d.signed ++ digits ∧
    (digits.length = 1 ∨ digits.length = 2) ∧ (∀ c ∈ digits, c.isDigit = true) ∧
    numeralValue digits = d.bitWidth
  /-- The width is not too large. -/
  le_max : d.bitWidth ≤ 64
  /-- The width is positive unless zero is allowed. -/
  pos : 1 ≤ d.bitWidth ∨ config.allowZeroWidth = true

/-! ### Keywords -/

theorem not_isDigit_of_mem_keyword (signed : Bool) :
    ∀ c ∈ keyword signed, c.isDigit = false := by
  intro c hc
  cases signed with
  | false =>
      have hcases : c = 'U' ∨ c = 'I' ∨ c = 'N' ∨ c = 'T' := by simpa [keyword] using hc
      rcases hcases with rfl | rfl | rfl | rfl <;> rfl
  | true =>
      have hcases : c = 'I' ∨ c = 'N' ∨ c = 'T' := by simpa [keyword] using hc
      rcases hcases with rfl | rfl | rfl <;> rfl

/-- The width of a descriptor is what follows its keyword. -/
theorem drop_keyword (signed : Bool) (rest : List Char) :
    ByteSuffix.drop (keyword signed).length (keyword signed ++ rest) = ⟨0, rest⟩ := by
  cases signed
  · show ByteSuffix.drop 4 ('U' :: 'I' :: 'N' :: 'T' :: rest) = _
    simp [ByteSuffix.drop, show Char.utf8Size 'U' = 1 from rfl, show Char.utf8Size 'I' = 1 from rfl,
      show Char.utf8Size 'N' = 1 from rfl, show Char.utf8Size 'T' = 1 from rfl]
  · show ByteSuffix.drop 3 ('I' :: 'N' :: 'T' :: rest) = _
    simp [ByteSuffix.drop, show Char.utf8Size 'I' = 1 from rfl,
      show Char.utf8Size 'N' = 1 from rfl, show Char.utf8Size 'T' = 1 from rfl]

theorem isInfix_of_finds {mode : PrefixMatch} {word text : List Char}
    (h : mode.finds word text = true) : word <:+: text := by
  cases mode with
  | substring => simpa only [PrefixMatch.finds, decide_eq_true_eq] using h
  | anchored =>
      have hprefix : word <+: text := of_decide_eq_true h
      exact hprefix.isInfix

/-- Either mode finds a keyword that starts the text. -/
theorem finds_append (mode : PrefixMatch) (word rest : List Char) :
    mode.finds word (word ++ rest) = true := by
  cases mode with
  | substring =>
      simp only [PrefixMatch.finds, decide_eq_true_eq]
      exact (List.prefix_append word rest).isInfix
  | anchored => exact decide_eq_true (List.prefix_append word rest)

/-- The keyword of a text that starts with one: the longer keyword is not looked for in vain,
since the shorter one and a width have no `U`. -/
theorem signedness?_append {signed : Bool} (mode : PrefixMatch) {digits : List Char}
    (hdigits : ∀ c ∈ digits, c.isDigit = true) :
    signedness? mode (keyword signed ++ digits) = some signed := by
  cases signed with
  | false => rw [signedness?, if_pos (finds_append mode _ _)]
  | true =>
      have hfinds : ¬ mode.finds (keyword false) (keyword true ++ digits) = true := by
        intro h
        have hmem : 'U' ∈ keyword true ++ digits :=
          (isInfix_of_finds h).subset (by decide)
        rcases List.mem_append.1 hmem with hu | hu
        · exact absurd hu (by decide)
        · exact absurd (hdigits _ hu) (by decide)
      rw [signedness?, if_neg hfinds, if_pos (finds_append mode _ _)]

theorem finds_of_signedness? {mode : PrefixMatch} {text : List Char} {signed : Bool}
    (h : signedness? mode text = some signed) : mode.finds (keyword signed) text = true := by
  unfold signedness? at h
  split at h
  · next hfinds => cases h; exact hfinds
  · split at h
    · next hfinds => cases h; exact hfinds
    · exact absurd h (by simp)

/-- A keyword in a text that ends in digits stands before the digits. -/
theorem isInfix_front {signed : Bool} {front digits : List Char}
    (hdigits : ∀ c ∈ digits, c.isDigit = true) (h : keyword signed <:+: front ++ digits) :
    keyword signed <:+: front := by
  obtain ⟨before, after, h⟩ := h
  rcases List.append_eq_append_iff.1 h with ⟨middle, hfront, -⟩ | ⟨middle, hword, hrest⟩
  · exact ⟨before, middle, hfront.symm⟩
  · -- the keyword would end inside the digits, and its last letter is none
    rcases List.eq_nil_or_concat middle with rfl | ⟨init, last, rfl⟩
    · exact ⟨before, [], by rw [hword, List.append_nil, List.append_nil]⟩
    · have hlast : last ∈ digits := by
        rw [hrest]
        simp
      have hend : (keyword signed).getLast? = some last := by
        have := congrArg List.getLast? hword
        rw [List.getLast?_append] at this
        cases signed <;> simpa [keyword] using this
      have hletter := not_isDigit_of_mem_keyword signed _ (List.mem_of_getLast? hend)
      exact absurd (hdigits last hlast) (by rw [hletter]; exact Bool.false_ne_true)

/-- **What is skipped is the keyword.** If a text holds the keyword and what follows as many
bytes as the keyword has is made of digits, then the keyword starts the text. -/
theorem eq_keyword_append {signed : Bool} {text : List Char}
    (hword : keyword signed <:+: text)
    (hnumeral : (ByteSuffix.drop (keyword signed).length text).isNumeral = true)
    (hne : (ByteSuffix.drop (keyword signed).length text).rest ≠ []) :
    text = keyword signed ++ (ByteSuffix.drop (keyword signed).length text).rest := by
  obtain ⟨hstray, hdigits⟩ := ByteSuffix.isNumeral_iff.1 hnumeral
  obtain ⟨front, htext, hsum⟩ := ByteSuffix.exists_front_of_drop hstray hne
  generalize (ByteSuffix.drop (keyword signed).length text).rest = digits at htext hdigits ⊢
  have hinfix : keyword signed <:+: front := isInfix_front hdigits (htext ▸ hword)
  have hfront : keyword signed = front := by
    refine hinfix.eq_of_length (Nat.le_antisymm hinfix.length_le ?_)
    exact hsum ▸ ByteSuffix.length_le_utf8Length front
  rw [htext, ← hfront]

end IntDomain

end Thresholding
