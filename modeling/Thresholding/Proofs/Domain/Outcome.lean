import Thresholding.Proofs.Domain.Grammar
import Thresholding.Proofs.Failure

/-!
# Thresholding.Proofs.Domain.Outcome

**What reading a text comes to**: every error with what is known of the text then.

`parse_outcome` has a case for each error and one for a domain, and tells the text apart from how it
is read: when the width is what is wrong, the text is a keyword and digits. The other direction is
`parse_digits`, which says what a keyword and digits are read as.
-/

namespace Thresholding

/-! ### Bytes -/

namespace ByteSuffix

/-- What is left after an offset are the bytes of the text less the offset. -/
theorem byteLength_drop (offset : Nat) (text : List Char) :
    (drop offset text).byteLength = utf8Length text - offset := by
  induction offset, text using drop.induct with
  | case1 text => rw [drop_zero, byteLength, Nat.zero_add, Nat.sub_zero]
  | case2 offset => rw [drop, byteLength, utf8Length, Nat.zero_sub]
  | case3 offset c text hle ih =>
      rw [drop, if_pos hle, ih, utf8Length]
      omega
  | case4 offset c text hlt =>
      rw [drop, if_neg hlt]
      dsimp only [byteLength, utf8Length]
      omega

/-- Some text shows a suffix of at least one byte. -/
theorem text_ne_empty {s : ByteSuffix} (h : 0 < s.byteLength) : s.text ≠ "" := by
  intro htext
  rw [text, ← String.toList_inj, String.toList_ofList, String.toList_empty,
    List.append_eq_nil_iff, List.replicate_eq_nil_iff] at htext
  rw [byteLength, htext.1, htext.2, utf8Length] at h
  exact absurd h (Nat.lt_irrefl _)

end ByteSuffix

namespace IntDomain

variable {config : Config} {mode : PrefixMatch} {allowZeroWidth signed : Bool}
  {descriptor : String} {digits : List Char}

/-! ### The width -/

/-- What follows as many bytes of a text as a keyword has. -/
def afterKeyword (signed : Bool) (descriptor : String) : ByteSuffix :=
  ByteSuffix.drop (keyword signed).length descriptor.toList

/-- Once a keyword is found, reading looks at what follows as many bytes as it has. -/
theorem parse_of_signedness?
    (hsigned : signedness? config.prefixMatch descriptor.toList = some signed) :
    parse config descriptor =
      if (afterKeyword signed descriptor).byteLength = 0 ∨
          2 < (afterKeyword signed descriptor).byteLength then
        .error (.invalidWidthLength descriptor (afterKeyword signed descriptor).text)
      else if !(afterKeyword signed descriptor).isNumeral then
        .error (.nonNumericWidth descriptor (afterKeyword signed descriptor).text)
      else if maxBitWidth < numeralValue (afterKeyword signed descriptor).rest then
        .error (.widthTooLarge descriptor (numeralValue (afterKeyword signed descriptor).rest))
      else if numeralValue (afterKeyword signed descriptor).rest = 0 ∧ !config.allowZeroWidth then
        .error (.zeroWidth descriptor)
      else .ok ⟨signed, numeralValue (afterKeyword signed descriptor).rest⟩ := by
  rw [parse, hsigned]
  rfl

/-- Reading a keyword and any number of digits. -/
theorem parse_digits (config : Config) (htext : descriptor.toList = keyword signed ++ digits)
    (hdigits : ∀ c ∈ digits, c.isDigit = true) :
    parse config descriptor =
      if digits.length = 0 ∨ 2 < digits.length then
        .error (.invalidWidthLength descriptor (String.ofList digits))
      else if maxBitWidth < numeralValue digits then
        .error (.widthTooLarge descriptor (numeralValue digits))
      else if numeralValue digits = 0 ∧ !config.allowZeroWidth then .error (.zeroWidth descriptor)
      else .ok ⟨signed, numeralValue digits⟩ := by
  have hsigned : signedness? config.prefixMatch descriptor.toList = some signed := by
    rw [htext, signedness?_append config.prefixMatch hdigits]
  have hafter : afterKeyword signed descriptor = ⟨0, digits⟩ := by
    rw [afterKeyword, htext, drop_keyword]
  have hbytes : (⟨0, digits⟩ : ByteSuffix).byteLength = digits.length := by
    rw [ByteSuffix.byteLength, ByteSuffix.utf8Length_of_digits hdigits, Nat.zero_add]
  have hnumeral : (⟨0, digits⟩ : ByteSuffix).isNumeral = true :=
    ByteSuffix.isNumeral_iff.2 ⟨rfl, hdigits⟩
  simp only [parse_of_signedness? hsigned, hafter, hbytes, hnumeral, Bool.not_true,
    Bool.false_eq_true, if_false]
  rfl

/-- A text is a keyword and one or two digits. -/
structure Written (descriptor : String) (signed : Bool) (digits : List Char) : Prop where
  /-- The keyword starts the text, and the digits follow it. -/
  toList_eq : descriptor.toList = keyword signed ++ digits
  /-- There are one or two of them. -/
  length : digits.length = 1 ∨ digits.length = 2
  /-- They are ASCII digits. -/
  isDigit : ∀ c ∈ digits, c.isDigit = true

theorem Written.parse_eq (h : Written descriptor signed digits) (config : Config) :
    parse config descriptor =
      if maxBitWidth < numeralValue digits then
        .error (.widthTooLarge descriptor (numeralValue digits))
      else if numeralValue digits = 0 ∧ !config.allowZeroWidth then .error (.zeroWidth descriptor)
      else .ok ⟨signed, numeralValue digits⟩ := by
  have hlength := h.length
  rw [parse_digits config h.toList_eq h.isDigit, if_neg (by omega)]

/-! ### What reading comes to -/

/-- What reading a text comes to. Of an error that is reported, the text fails the condition and
meets those before it. -/
inductive Outcome (config : Config) (descriptor : String) :
    Except DescriptorError IntDomain → Prop
  /-- No keyword is found. -/
  | unrecognizedPrefix : signedness? config.prefixMatch descriptor.toList = none →
      Outcome config descriptor (.error (.unrecognizedPrefix descriptor))
  /-- A keyword is found, but no byte is left for the width, or more than two are. -/
  | invalidWidthLength {signed : Bool} :
      signedness? config.prefixMatch descriptor.toList = some signed →
      (afterKeyword signed descriptor).byteLength = 0 ∨
        2 < (afterKeyword signed descriptor).byteLength →
      Outcome config descriptor
        (.error (.invalidWidthLength descriptor (afterKeyword signed descriptor).text))
  /-- One or two bytes are left, but they are not digits. -/
  | nonNumericWidth {signed : Bool} :
      signedness? config.prefixMatch descriptor.toList = some signed →
      0 < (afterKeyword signed descriptor).byteLength →
      (afterKeyword signed descriptor).byteLength ≤ 2 →
      (afterKeyword signed descriptor).isNumeral = false →
      Outcome config descriptor
        (.error (.nonNumericWidth descriptor (afterKeyword signed descriptor).text))
  /-- The text is a keyword and digits, but their number is too large. -/
  | widthTooLarge {signed : Bool} {digits : List Char} : Written descriptor signed digits →
      64 < numeralValue digits →
      Outcome config descriptor (.error (.widthTooLarge descriptor (numeralValue digits)))
  /-- The number is zero, which is not allowed. -/
  | zeroWidth {signed : Bool} {digits : List Char} : Written descriptor signed digits →
      numeralValue digits = 0 → config.allowZeroWidth = false →
      Outcome config descriptor (.error (.zeroWidth descriptor))
  /-- The number is the width of a domain. -/
  | domain {signed : Bool} {digits : List Char} : Written descriptor signed digits →
      numeralValue digits ≤ 64 → (1 ≤ numeralValue digits ∨ config.allowZeroWidth = true) →
      Outcome config descriptor (.ok ⟨signed, numeralValue digits⟩)

/-- What is skipped is the keyword if digits follow it. -/
theorem written_of_isNumeral
    (hsigned : signedness? config.prefixMatch descriptor.toList = some signed)
    (hpos : 0 < (afterKeyword signed descriptor).byteLength)
    (hle : (afterKeyword signed descriptor).byteLength ≤ 2)
    (hnumeral : (afterKeyword signed descriptor).isNumeral = true) :
    Written descriptor signed (afterKeyword signed descriptor).rest := by
  obtain ⟨hstray, hdigits⟩ := ByteSuffix.isNumeral_iff.1 hnumeral
  rw [ByteSuffix.byteLength, hstray, ByteSuffix.utf8Length_of_digits hdigits] at hpos hle
  refine ⟨?_, by omega, hdigits⟩
  refine eq_keyword_append (isInfix_of_finds (finds_of_signedness? hsigned)) hnumeral fun hnil => ?_
  have hnone : (afterKeyword signed descriptor).rest.length = 0 := by
    rw [afterKeyword, hnil, List.length_nil]
  omega

/-- A width that is not refused for being zero. -/
theorem one_le_or_allowed {width : Nat} (h : ¬ (width = 0 ∧ (!config.allowZeroWidth) = true)) :
    1 ≤ width ∨ config.allowZeroWidth = true := by
  by_cases hallow : config.allowZeroWidth = true
  · exact Or.inr hallow
  · refine Or.inl (Nat.pos_of_ne_zero fun hwidth => h ⟨hwidth, ?_⟩)
    simpa using hallow

/-- **Reading comes to one of these**, in either mode. -/
theorem parse_outcome (config : Config) (descriptor : String) :
    Outcome config descriptor (parse config descriptor) := by
  cases hsigned : signedness? config.prefixMatch descriptor.toList with
  | none =>
      rw [parse, hsigned]
      exact .unrecognizedPrefix hsigned
  | some signed =>
      by_cases hlength : (afterKeyword signed descriptor).byteLength = 0 ∨
          2 < (afterKeyword signed descriptor).byteLength
      · rw [parse_of_signedness? hsigned, if_pos hlength]
        exact .invalidWidthLength hsigned hlength
      by_cases hnumeral : (afterKeyword signed descriptor).isNumeral = true
      · have hwritten := written_of_isNumeral hsigned (by omega) (by omega) hnumeral
        rw [hwritten.parse_eq config]
        split
        · next hlarge => exact .widthTooLarge hwritten hlarge
        next hmax =>
        split
        · next hzero => exact .zeroWidth hwritten hzero.1 (by simpa using hzero.2)
        · next hzero => exact .domain hwritten (Nat.not_lt.1 hmax) (one_le_or_allowed hzero)
      · rw [parse_of_signedness? hsigned, if_neg hlength, if_pos (by simpa using hnumeral)]
        exact .nonNumericWidth hsigned (by omega) (by omega) (by simpa using hnumeral)

/-! ### What is accepted -/

theorem legal_of_parse {config : Config} {descriptor : String} {d : IntDomain}
    (h : parse config descriptor = .ok d) : Legal config descriptor d := by
  have houtcome := parse_outcome config descriptor
  rw [h] at houtcome
  cases houtcome with
  | domain hwritten hmax hpos =>
      exact ⟨⟨_, hwritten.toList_eq, hwritten.length, hwritten.isDigit, rfl⟩, hmax, hpos⟩

theorem parse_of_legal {config : Config} {descriptor : String} {d : IntDomain}
    (h : Legal config descriptor d) : parse config descriptor = .ok d := by
  obtain ⟨⟨digits, htext, hlength, hdigits, hvalue⟩, hmax, hpos⟩ := h
  have hwritten : Written descriptor d.signed digits := ⟨htext, hlength, hdigits⟩
  have hzero : ¬ (d.bitWidth = 0 ∧ (!config.allowZeroWidth) = true) := by
    rintro ⟨hwidth, hallow⟩
    rcases hpos with hpos | hpos
    · omega
    · rw [hpos] at hallow
      exact absurd hallow (by decide)
  have hle : ¬ maxBitWidth < d.bitWidth := Nat.not_lt.2 hmax
  rw [hwritten.parse_eq config, hvalue, if_neg hle, if_neg hzero]

/-- **Reading accepts exactly the legal descriptors**, in either mode. -/
theorem parse_eq_ok_iff {config : Config} {descriptor : String} {d : IntDomain} :
    parse config descriptor = .ok d ↔ Legal config descriptor d :=
  ⟨legal_of_parse, parse_of_legal⟩

/-! ### What the configuration decides -/

/-- A legal descriptor stays legal where no less is allowed. The mode has no say in it. -/
theorem Legal.mono {config config' : Config} {descriptor : String} {d : IntDomain}
    (h : Legal config descriptor d)
    (hallow : config.allowZeroWidth = true → config'.allowZeroWidth = true) :
    Legal config' descriptor d :=
  ⟨h.spelled, h.le_max, h.pos.imp_right hallow⟩

/-- **The mode decides only which error is reported.** A text is read as the same domain in
either mode, or refused in both. -/
theorem toOption_parse_eq {config config' : Config}
    (h : config'.allowZeroWidth = config.allowZeroWidth) (descriptor : String) :
    (parse config' descriptor).toOption = (parse config descriptor).toOption := by
  apply Option.ext
  intro d
  rw [toOption_eq_some_iff, toOption_eq_some_iff, parse_eq_ok_iff, parse_eq_ok_iff]
  constructor
  · intro hlegal
    exact hlegal.mono fun hallow => h ▸ hallow
  · intro hlegal
    exact hlegal.mono fun hallow => h.symm ▸ hallow

/-! ### The number of the digits -/

theorem toNat_of_isDigit {c : Char} (h : c.isDigit = true) : 48 ≤ c.toNat ∧ c.toNat ≤ 57 :=
  Char.isDigit_iff_toNat.1 h

theorem numeralValue_singleton (a : Char) : numeralValue [a] = a.toNat - 48 := by
  simp [numeralValue]

theorem numeralValue_pair (a b : Char) :
    numeralValue [a, b] = 10 * (a.toNat - 48) + (b.toNat - 48) := by
  simp [numeralValue]

/-- Zero is written with one or two zeros. -/
theorem numeralValue_eq_zero_iff (hlength : digits.length = 1 ∨ digits.length = 2)
    (hdigits : ∀ c ∈ digits, c.isDigit = true) :
    numeralValue digits = 0 ↔ digits = ['0'] ∨ digits = ['0', '0'] := by
  have hzero : ∀ c ∈ digits, c.toNat - 48 = 0 ↔ c = '0' := by
    intro c hc
    have hrange := toNat_of_isDigit (hdigits c hc)
    rw [← Char.toNat_inj, show '0'.toNat = 48 from rfl]
    omega
  match digits, hlength with
  | [a], _ => simp [numeralValue_singleton, hzero a List.mem_cons_self]
  | [a, b], _ =>
      have ha := hzero a List.mem_cons_self
      have hb := hzero b (List.mem_cons_of_mem _ List.mem_cons_self)
      rw [numeralValue_pair, Nat.add_eq_zero_iff, Nat.mul_eq_zero, ha, hb]
      simp
  | [], hlength => exact absurd hlength (by simp)
  | _ :: _ :: _ :: _, hlength => exact absurd hlength (by simp)

/-- More than sixty-four is written with two digits. -/
theorem length_eq_two_of_lt (hlength : digits.length = 1 ∨ digits.length = 2)
    (hdigits : ∀ c ∈ digits, c.isDigit = true) (hlt : 64 < numeralValue digits) :
    digits.length = 2 := by
  refine hlength.resolve_left fun hone => ?_
  obtain ⟨a, rfl⟩ := List.length_eq_one_iff.1 hone
  have hrange := toNat_of_isDigit (hdigits a List.mem_cons_self)
  rw [numeralValue_singleton] at hlt
  omega

/-! ### When an error is reported -/

theorem parse_eq_unrecognizedPrefix_iff :
    parse config descriptor = .error (.unrecognizedPrefix descriptor) ↔
      signedness? config.prefixMatch descriptor.toList = none := by
  constructor
  · intro h
    have houtcome := parse_outcome config descriptor
    rw [h] at houtcome
    cases houtcome with
    | unrecognizedPrefix hnone => exact hnone
  · intro hnone
    rw [parse, hnone]

theorem parse_eq_widthTooLarge_iff {width : Nat} :
    parse config descriptor = .error (.widthTooLarge descriptor width) ↔
      ∃ signed digits, Written descriptor signed digits ∧ numeralValue digits = width ∧
        64 < width := by
  constructor
  · intro h
    have houtcome := parse_outcome config descriptor
    rw [h] at houtcome
    cases houtcome with
    | widthTooLarge hwritten hlt => exact ⟨_, _, hwritten, rfl, hlt⟩
  · intro h
    obtain ⟨signed, digits, hwritten, rfl, hlt⟩ := h
    exact (hwritten.parse_eq config).trans (if_pos hlt)

theorem parse_eq_zeroWidth_iff :
    parse config descriptor = .error (.zeroWidth descriptor) ↔
      config.allowZeroWidth = false ∧
        ∃ signed digits, Written descriptor signed digits ∧ numeralValue digits = 0 := by
  constructor
  · intro h
    have houtcome := parse_outcome config descriptor
    rw [h] at houtcome
    cases houtcome with
    | zeroWidth hwritten hzero hallow => exact ⟨hallow, _, _, hwritten, hzero⟩
  · intro h
    obtain ⟨hallow, signed, digits, hwritten, hzero⟩ := h
    rw [hwritten.parse_eq, hzero, hallow, if_neg (by decide), if_pos (by decide)]

end IntDomain

end Thresholding
