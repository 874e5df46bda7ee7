import Thresholding.Proofs.Domain.Spelling

/-!
# Thresholding.Proofs.Domain.Refusal

**What a text is refused for**, and what the mode has to do with it.

Where the mode looks for the keyword only matters for texts that do not start with one
(`condition_mode`). A text that starts with `INT` may hold `UINT` further right, and then its width
is read one byte further right in the lenient mode. But then too many bytes follow in either case.
-/

namespace Thresholding

/-! ### Errors -/

namespace DescriptorError

/-- A condition on descriptors. -/
inductive Condition
  /-- There is a keyword. -/
  | keyword
  /-- One or two bytes are left for the width. -/
  | widthLength
  /-- They are digits. -/
  | widthDigits
  /-- The width is not too large. -/
  | largestWidth
  /-- The width is not too small. -/
  | leastWidth
  deriving Repr, DecidableEq

/-- The condition that is reported as failed. -/
def condition : DescriptorError → Condition
  | unrecognizedPrefix _ => .keyword
  | invalidWidthLength _ _ => .widthLength
  | nonNumericWidth _ _ => .widthDigits
  | widthTooLarge _ _ => .largestWidth
  | zeroWidth _ => .leastWidth

/-- The text that is reported. -/
def descriptor : DescriptorError → String
  | unrecognizedPrefix descriptor => descriptor
  | invalidWidthLength descriptor _ => descriptor
  | nonNumericWidth descriptor _ => descriptor
  | widthTooLarge descriptor _ => descriptor
  | zeroWidth descriptor => descriptor

end DescriptorError

namespace IntDomain

variable {config config' : Config} {mode : PrefixMatch} {allowZeroWidth signed : Bool}
  {descriptor : String} {text digits : List Char}

/-- Every error names the text that was read. -/
theorem descriptor_of_parse {e : DescriptorError} (h : parse config descriptor = .error e) :
    e.descriptor = descriptor := by
  have houtcome := parse_outcome config descriptor
  rw [h] at houtcome
  cases houtcome <;> rfl

/-! ### Where the keyword is found -/

theorem finds_anchored_iff {word : List Char} :
    PrefixMatch.anchored.finds word text = true ↔ word <+: text :=
  decide_eq_true_iff

theorem finds_substring_iff {word : List Char} :
    PrefixMatch.substring.finds word text = true ↔ word <:+: text := by
  simp only [PrefixMatch.finds, decide_eq_true_eq]

theorem signedness?_eq_none_iff : signedness? mode text = none ↔
    ¬ mode.finds (keyword false) text = true ∧ ¬ mode.finds (keyword true) text = true := by
  unfold signedness?
  split
  · next hfinds => simp [hfinds]
  · next hfinds => split <;> simp [*]

theorem signedness?_anchored_eq_none_iff : signedness? .anchored text = none ↔
    ¬ keyword true <+: text ∧ ¬ keyword false <+: text := by
  rw [signedness?_eq_none_iff, finds_anchored_iff, finds_anchored_iff, and_comm]

/-- The longer keyword holds the shorter one, so it is enough to look for that. -/
theorem signedness?_substring_eq_none_iff : signedness? .substring text = none ↔
    ¬ keyword true <:+: text := by
  rw [signedness?_eq_none_iff, finds_substring_iff, finds_substring_iff]
  refine ⟨fun h => h.2, fun h => ⟨fun hlonger => h ?_, h⟩⟩
  exact List.IsInfix.trans ⟨['U'], [], rfl⟩ hlonger

/-- Either mode finds the longer keyword where it starts the text. -/
theorem signedness?_of_longer (mode : PrefixMatch) (h : keyword false <+: text) :
    signedness? mode text = some false := by
  obtain ⟨rest, rfl⟩ := h
  rw [signedness?, if_pos (finds_append mode _ _)]

/-- The shorter keyword is found where it starts the text, unless the mode finds the longer one
further right. -/
theorem signedness?_of_shorter (h : keyword true <+: text)
    (hnone : ¬ mode.finds (keyword false) text = true) : signedness? mode text = some true := by
  obtain ⟨rest, rfl⟩ := h
  rw [signedness?, if_neg hnone, if_pos (finds_append mode _ _)]

theorem not_longer_of_shorter (h : keyword true <+: text) : ¬ keyword false <+: text := by
  obtain ⟨rest, rfl⟩ := h
  simp [keyword]

/-! ### Texts that start with a keyword -/

/-- The mode matters only for the keyword. -/
theorem parse_congr (hallow : config'.allowZeroWidth = config.allowZeroWidth)
    (hsigned : signedness? config'.prefixMatch descriptor.toList =
      signedness? config.prefixMatch descriptor.toList) :
    parse config' descriptor = parse config descriptor := by
  rw [parse, hsigned, hallow, parse]

/-- Where the longer keyword stands behind the shorter one, at least seven characters are needed:
none of the letters of the shorter one starts the longer one. -/
theorem seven_le_length (h : keyword true <+: text) (hlonger : keyword false <:+: text) :
    7 ≤ text.length := by
  obtain ⟨rest, rfl⟩ := h
  obtain ⟨before, after, htext⟩ := hlonger
  match before with
  | [] => exact absurd htext (by simp [keyword])
  | [_] => exact absurd htext (by simp [keyword])
  | [_, _] => exact absurd htext (by simp [keyword])
  | _ :: _ :: _ :: before =>
      have hlength := congrArg List.length htext
      simp only [List.length_append, List.length_cons] at hlength ⊢
      have hlonger : (keyword false).length = 4 := rfl
      omega

/-- Too many bytes are left for the width then, whichever keyword it follows. -/
theorem two_lt_byteLength (hlength : 7 ≤ descriptor.toList.length) (signed : Bool) :
    2 < (afterKeyword signed descriptor).byteLength := by
  have hbytes := ByteSuffix.length_le_utf8Length descriptor.toList
  have hkeyword : (keyword signed).length ≤ 4 := by cases signed <;> decide
  rw [afterKeyword, ByteSuffix.byteLength_drop]
  omega

theorem condition_of_two_lt (hsigned : signedness? config.prefixMatch descriptor.toList = some signed)
    (h : 2 < (afterKeyword signed descriptor).byteLength) :
    (parse config descriptor).mapError DescriptorError.condition = .error .widthLength := by
  rw [parse_of_signedness? hsigned, if_pos (Or.inr h)]
  rfl

/-- **For a text that starts with a keyword, the mode makes no difference** to the domain or to the
condition that fails. -/
theorem condition_mode (allowZeroWidth : Bool)
    (h : keyword true <+: descriptor.toList ∨ keyword false <+: descriptor.toList) :
    (parse ⟨.anchored, allowZeroWidth⟩ descriptor).mapError DescriptorError.condition =
      (parse ⟨.substring, allowZeroWidth⟩ descriptor).mapError DescriptorError.condition := by
  rcases h with hshorter | hlonger
  · have hanchored : signedness? .anchored descriptor.toList = some true := by
      refine signedness?_of_shorter hshorter fun hfinds => ?_
      exact not_longer_of_shorter hshorter (finds_anchored_iff.1 hfinds)
    by_cases hfinds : PrefixMatch.substring.finds (keyword false) descriptor.toList = true
    · -- the lenient mode skips a byte more, and there are too many for both
      have hlength := seven_le_length hshorter (finds_substring_iff.1 hfinds)
      have hsubstring : signedness? .substring descriptor.toList = some false := if_pos hfinds
      rw [condition_of_two_lt hanchored (two_lt_byteLength hlength true),
        condition_of_two_lt hsubstring (two_lt_byteLength hlength false)]
    · have hsubstring := signedness?_of_shorter hshorter hfinds
      exact congrArg _ (parse_congr rfl (hanchored.trans hsubstring.symm))
  · refine congrArg _ (parse_congr rfl ?_)
    rw [signedness?_of_longer _ hlonger, signedness?_of_longer _ hlonger]

/-! ### Texts that hold a keyword further right -/

/-- Where a keyword is found further right, bytes are left for the width. -/
theorem byteLength_pos (hsigned : signedness? mode descriptor.toList = some signed)
    (hstart : ¬ keyword signed <+: descriptor.toList) :
    0 < (afterKeyword signed descriptor).byteLength := by
  obtain ⟨before, after, htext⟩ := isInfix_of_finds (finds_of_signedness? hsigned)
  have hbefore : before ≠ [] := by
    rintro rfl
    exact hstart ⟨after, by rw [← htext, List.nil_append]⟩
  have hpos := List.length_pos_iff.2 hbefore
  have hlength := congrArg List.length htext
  rw [List.length_append, List.length_append] at hlength
  have hbytes := ByteSuffix.length_le_utf8Length descriptor.toList
  rw [afterKeyword, ByteSuffix.byteLength_drop]
  omega

/-- **A text that does not start with the keyword it holds** is refused for its width, part of which
is the keyword. -/
theorem exists_suffix (allowZeroWidth : Bool) (hword : keyword true <:+: descriptor.toList)
    (hstart : ∀ signed, ¬ keyword signed <+: descriptor.toList) :
    ∃ suffix, suffix ≠ "" ∧
      (parse ⟨.substring, allowZeroWidth⟩ descriptor =
          .error (.invalidWidthLength descriptor suffix) ∨
        parse ⟨.substring, allowZeroWidth⟩ descriptor =
          .error (.nonNumericWidth descriptor suffix)) := by
  have hwritten : ∀ {signed digits}, ¬ Written descriptor signed digits := fun h =>
    hstart _ ⟨_, h.toList_eq.symm⟩
  have houtcome := parse_outcome ⟨.substring, allowZeroWidth⟩ descriptor
  generalize parse ⟨.substring, allowZeroWidth⟩ descriptor = answer at houtcome
  cases houtcome with
  | unrecognizedPrefix hnone => exact absurd hword (signedness?_substring_eq_none_iff.1 hnone)
  | invalidWidthLength hsigned _ =>
      have hpos := byteLength_pos hsigned (hstart _)
      exact ⟨_, ByteSuffix.text_ne_empty hpos, Or.inl rfl⟩
  | nonNumericWidth _ hpos _ _ => exact ⟨_, ByteSuffix.text_ne_empty hpos, Or.inr rfl⟩
  | widthTooLarge h _ => exact absurd h hwritten
  | zeroWidth h _ _ => exact absurd h hwritten
  | domain h _ _ => exact absurd h hwritten

/-! ### The errors -/

theorem written_iff : Written descriptor signed digits ↔
    descriptor = (if signed then "INT" else "UINT") ++ String.ofList digits ∧
      (digits.length = 1 ∨ digits.length = 2) ∧ ∀ c ∈ digits, '0' ≤ c ∧ c ≤ '9' := by
  rw [← ofList_keyword, ← String.ofList_append, ← String.toList_inj, String.toList_ofList]
  simp only [← isDigit_iff_le]
  exact ⟨fun h => ⟨h.toList_eq, h.length, h.isDigit⟩, fun h => ⟨h.1, h.2.1, h.2.2⟩⟩

/-- Texts with a width above 64, which takes two digits. -/
theorem written_large_iff {width : Nat} :
    Written descriptor signed digits ∧ numeralValue digits = width ∧ 64 < width ↔
      descriptor = (if signed then "INT" else "UINT") ++ String.ofList digits ∧
        digits.length = 2 ∧ (∀ c ∈ digits, '0' ≤ c ∧ c ≤ '9') ∧ decimalValue digits = width ∧
        64 < width := by
  rw [← numeralValue_eq]
  constructor
  · intro h
    obtain ⟨hwritten, rfl, hlt⟩ := h
    obtain ⟨htext, hlength, hdigits⟩ := written_iff.1 hwritten
    exact ⟨htext, length_eq_two_of_lt hlength hwritten.isDigit hlt, hdigits, rfl, hlt⟩
  · intro h
    exact ⟨written_iff.2 ⟨h.1, Or.inr h.2.1, h.2.2.1⟩, h.2.2.2⟩

/-- Texts with a width of zero, which is written with one or two zeros. -/
theorem exists_written_zero_iff :
    (∃ digits, Written descriptor signed digits ∧ numeralValue digits = 0) ↔
      descriptor = (if signed then "INT" else "UINT") ++ "0" ∨
        descriptor = (if signed then "INT" else "UINT") ++ "00" := by
  constructor
  · intro h
    obtain ⟨digits, hwritten, hzero⟩ := h
    obtain ⟨htext, -, -⟩ := written_iff.1 hwritten
    rcases (numeralValue_eq_zero_iff hwritten.length hwritten.isDigit).1 hzero with rfl | rfl
    · exact Or.inl htext
    · exact Or.inr htext
  · intro h
    rcases h with htext | htext
    · exact ⟨['0'], written_iff.2 ⟨htext, Or.inl rfl, by simp⟩, rfl⟩
    · exact ⟨['0', '0'], written_iff.2 ⟨htext, Or.inr rfl, by simp⟩, rfl⟩

/-- What the errors of reading a text say about it, in the one mode and in the other. -/
structure ReportsFailure (allowZeroWidth : Bool) (descriptor : String) : Prop where
  /-- Every error names the text. -/
  names : ∀ mode e, parse ⟨mode, allowZeroWidth⟩ descriptor = .error e → e.descriptor = descriptor
  /-- In the strict mode no keyword is found if none starts the text. -/
  anchored_iff : parse ⟨.anchored, allowZeroWidth⟩ descriptor =
      .error (.unrecognizedPrefix descriptor) ↔
    ¬ "INT".toList <+: descriptor.toList ∧ ¬ "UINT".toList <+: descriptor.toList
  /-- In the lenient mode none is found if the text does not hold the shorter one. -/
  substring_iff : parse ⟨.substring, allowZeroWidth⟩ descriptor =
      .error (.unrecognizedPrefix descriptor) ↔ ¬ "INT".toList <:+: descriptor.toList
  /-- A width is too large if the text is a keyword and two digits for a number above 64. -/
  widthTooLarge_iff : ∀ mode width, parse ⟨mode, allowZeroWidth⟩ descriptor =
      .error (.widthTooLarge descriptor width) ↔
    ∃ (signed : Bool) (digits : List Char),
      descriptor = (if signed then "INT" else "UINT") ++ String.ofList digits ∧
      digits.length = 2 ∧ (∀ c ∈ digits, '0' ≤ c ∧ c ≤ '9') ∧ decimalValue digits = width ∧
      64 < width
  /-- A width is zero if the text is a keyword and one or two zeros, and that is not allowed. -/
  zeroWidth_iff : ∀ mode, parse ⟨mode, allowZeroWidth⟩ descriptor =
      .error (.zeroWidth descriptor) ↔
    allowZeroWidth = false ∧ ∃ signed : Bool,
      descriptor = (if signed then "INT" else "UINT") ++ "0" ∨
      descriptor = (if signed then "INT" else "UINT") ++ "00"
  /-- If a keyword starts the text, both modes come to the same domain, or find the same condition
  failed. -/
  modes_agree : "INT".toList <+: descriptor.toList ∨ "UINT".toList <+: descriptor.toList →
    (parse ⟨.anchored, allowZeroWidth⟩ descriptor).mapError DescriptorError.condition =
      (parse ⟨.substring, allowZeroWidth⟩ descriptor).mapError DescriptorError.condition
  /-- If the text holds a keyword and none starts it, the lenient mode finds fault with a width that
  is some text. -/
  further_right : "INT".toList <:+: descriptor.toList → ¬ "INT".toList <+: descriptor.toList →
    ¬ "UINT".toList <+: descriptor.toList → ∃ suffix, suffix ≠ "" ∧
      (parse ⟨.substring, allowZeroWidth⟩ descriptor =
          .error (.invalidWidthLength descriptor suffix) ∨
        parse ⟨.substring, allowZeroWidth⟩ descriptor =
          .error (.nonNumericWidth descriptor suffix))

/-- **The error of reading tells what the text is like**, for every text and in both modes. -/
theorem reportsFailure (allowZeroWidth : Bool) (descriptor : String) :
    ReportsFailure allowZeroWidth descriptor where
  names _ _ h := descriptor_of_parse h
  anchored_iff := parse_eq_unrecognizedPrefix_iff.trans signedness?_anchored_eq_none_iff
  substring_iff := parse_eq_unrecognizedPrefix_iff.trans signedness?_substring_eq_none_iff
  widthTooLarge_iff mode width := by
    rw [parse_eq_widthTooLarge_iff]
    exact exists_congr fun signed => exists_congr fun digits => written_large_iff
  zeroWidth_iff mode := by
    rw [parse_eq_zeroWidth_iff]
    exact and_congr_right fun _ => exists_congr fun signed => exists_written_zero_iff
  modes_agree := condition_mode allowZeroWidth
  further_right hword hshorter hlonger := by
    refine exists_suffix allowZeroWidth hword fun signed => ?_
    cases signed
    · exact hlonger
    · exact hshorter

/-- The longer keyword behind the shorter one takes a byte more, and is refused all the same. A
letter of two bytes shifts the width by two. -/
example : parse { prefixMatch := .anchored } "INTUINT8" =
      .error (.invalidWidthLength "INTUINT8" "UINT8") ∧
    parse {} "INTUINT8" = .error (.invalidWidthLength "INTUINT8" "INT8") ∧
    parse {} "éINT" = .error (.nonNumericWidth "éINT" "NT") := by
  decide +kernel

end IntDomain

end Thresholding
