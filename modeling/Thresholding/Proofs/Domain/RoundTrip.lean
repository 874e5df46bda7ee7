import Thresholding.Proofs.Domain.Spelling

/-!
# Thresholding.Proofs.Domain.RoundTrip

**Reading and writing domains.** The text of a domain is read as the domain again if the width is
one that may be read (`parse_text`), and it is the text that the domain was read from, but for a
zero in front of the width (`toDigits_numeralValue`, `toDigits_numeralValue_of_zero`).
-/

namespace Thresholding.IntDomain

variable {config : Config} {descriptor : String} {digits : List Char} {d : IntDomain}

/-! ### Digits -/

theorem isDigit_of_mem_toDigits {n : Nat} : ∀ c ∈ Nat.toDigits 10 n, c.isDigit = true :=
  fun _ hc => Nat.isDigit_of_mem_toDigits (by decide) (by decide) hc

/-- The digits of a number are a numeral for it. -/
theorem numeralValue_toDigits (n : Nat) : numeralValue (Nat.toDigits 10 n) = n :=
  Nat.ofDigitChars_toDigits (by decide) (by decide)

theorem digitChar_of_isDigit {c : Char} (h : c.isDigit = true) :
    Nat.digitChar (c.toNat - 48) = c := by
  have hrange := toNat_of_isDigit h
  rw [← Char.toNat_inj, Nat.toNat_digitChar_of_lt_ten (by omega)]
  omega

theorem toDigits_of_isDigit {c : Char} (h : c.isDigit = true) :
    Nat.toDigits 10 (c.toNat - 48) = [c] := by
  have hrange := toNat_of_isDigit h
  rw [Nat.toDigits_of_lt_base (by omega), digitChar_of_isDigit h]

/-- A zero in front of a digit makes no difference to the number. -/
theorem toDigits_numeralValue_of_zero {c : Char} (h : c.isDigit = true) :
    Nat.toDigits 10 (numeralValue ['0', c]) = [c] := by
  rw [numeralValue_pair, show '0'.toNat - 48 = 0 from rfl, Nat.mul_zero, Nat.zero_add,
    toDigits_of_isDigit h]

/-- A numeral of one or two digits is made of the digits of its number, unless there is a zero in
front. -/
theorem toDigits_numeralValue (hlength : digits.length = 1 ∨ digits.length = 2)
    (hdigits : ∀ c ∈ digits, c.isDigit = true) (hzero : ∀ c, digits ≠ ['0', c]) :
    Nat.toDigits 10 (numeralValue digits) = digits := by
  match digits, hlength with
  | [a], _ => rw [numeralValue_singleton, toDigits_of_isDigit (hdigits a List.mem_cons_self)]
  | [a, b], _ =>
      have ha := hdigits a List.mem_cons_self
      have hb := hdigits b (List.mem_cons_of_mem _ List.mem_cons_self)
      have hne : a ≠ '0' := fun heq => hzero b (heq ▸ rfl)
      have hpos : 0 < a.toNat - 48 := by
        have hrange := toNat_of_isDigit ha
        have hcode : a.toNat ≠ 48 := fun heq => hne (Char.toNat_inj.1 heq)
        omega
      have hlt : b.toNat - 48 < 10 := by
        have hrange := toNat_of_isDigit hb
        omega
      rw [numeralValue_pair, ← Nat.toDigits_append_toDigits (by decide) hpos hlt,
        toDigits_of_isDigit ha, toDigits_of_isDigit hb, List.singleton_append]
  | [], hlength => exact absurd hlength (by simp)
  | _ :: _ :: _ :: _, hlength => exact absurd hlength (by simp)

/-! ### Texts of domains -/

theorem toList_text (d : IntDomain) :
    d.text.toList = keyword d.signed ++ Nat.toDigits 10 d.bitWidth := by
  rw [text, String.toList_append, String.toList_ofList, Nat.toString_eq_repr, Nat.toList_repr]

/-- **Reading the text of a domain**, whatever its width. -/
theorem parse_text (config : Config) (d : IntDomain) :
    parse config d.text =
      if 100 ≤ d.bitWidth then .error (.invalidWidthLength d.text (toString d.bitWidth))
      else if 64 < d.bitWidth then .error (.widthTooLarge d.text d.bitWidth)
      else if d.bitWidth = 0 ∧ !config.allowZeroWidth then .error (.zeroWidth d.text)
      else .ok d := by
  have hlength : (Nat.toDigits 10 d.bitWidth).length = 0 ∨
      2 < (Nat.toDigits 10 d.bitWidth).length ↔ 100 ≤ d.bitWidth := by
    have hle := Nat.length_toDigits_le_iff (b := 10) (n := d.bitWidth) (k := 2) (by decide) (by decide)
    have hpos := Nat.length_toDigits_pos (b := 10) (n := d.bitWidth)
    omega
  rw [parse_digits config d.toList_text isDigit_of_mem_toDigits, numeralValue_toDigits]
  simp only [hlength]
  rfl

/-- A text that a domain is read from is its keyword and a numeral for its width. -/
theorem exists_digits_of_parse (h : parse config descriptor = .ok d) :
    ∃ digits, Written descriptor d.signed digits ∧ numeralValue digits = d.bitWidth := by
  obtain ⟨digits, htext, hlength, hdigits, hvalue⟩ := (parse_eq_ok_iff.1 h).spelled
  exact ⟨digits, ⟨htext, hlength, hdigits⟩, hvalue⟩

/-- **Writing what was read**: it is the text that was read, unless the width has a zero in front. -/
theorem text_eq_of_parse (h : parse config descriptor = .ok d)
    (hzero : ∀ digit, descriptor.toList ≠ keyword d.signed ++ ['0', digit]) :
    d.text = descriptor := by
  obtain ⟨digits, hwritten, hvalue⟩ := exists_digits_of_parse h
  have hdigits : ∀ digit, digits ≠ ['0', digit] := fun digit heq =>
    hzero digit (heq ▸ hwritten.toList_eq)
  rw [← String.toList_inj, toList_text, hwritten.toList_eq, ← hvalue,
    toDigits_numeralValue hwritten.length hwritten.isDigit hdigits]

/-- A zero in front of the width is not written. -/
theorem toList_text_of_zero {digit : Char} (h : parse config descriptor = .ok d)
    (hzero : descriptor.toList = keyword d.signed ++ ['0', digit]) :
    d.text.toList = keyword d.signed ++ [digit] := by
  obtain ⟨digits, hwritten, hvalue⟩ := exists_digits_of_parse h
  have hdigits : digits = ['0', digit] :=
    List.append_cancel_left (hwritten.toList_eq.symm.trans hzero)
  have hdigit := hwritten.isDigit digit (by simp [hdigits])
  rw [toList_text, ← hvalue, hdigits, toDigits_numeralValue_of_zero hdigit]

/-- Writing a domain and reading it are inverse to each other, but for a zero in front. -/
structure RoundTrips (config : Config) : Prop where
  /-- What is read from a text is read from the text of the domain as well, in either mode. -/
  read_text : ∀ descriptor d, parse config descriptor = .ok d →
    ∀ mode, parse { config with prefixMatch := mode } d.text = .ok d
  /-- It is the same text, unless the width has two digits and the first one is zero. -/
  text_eq : ∀ descriptor d, parse config descriptor = .ok d →
    (∀ digit, descriptor ≠ (if d.signed then "INT" else "UINT") ++ String.ofList ['0', digit]) →
    d.text = descriptor
  /-- In that case it is the text without the zero. -/
  text_of_leadingZero : ∀ descriptor d digit, parse config descriptor = .ok d →
    descriptor = (if d.signed then "INT" else "UINT") ++ String.ofList ['0', digit] →
    d.text = (if d.signed then "INT" else "UINT") ++ String.ofList [digit]
  /-- The domains that are read from their text are those whose width may be read. -/
  read_iff : ∀ d : IntDomain, parse config d.text = .ok d ↔
    d.bitWidth ≤ 64 ∧ (1 ≤ d.bitWidth ∨ config.allowZeroWidth = true)
  /-- A width of zero is reported unless it is allowed. -/
  zeroWidth : ∀ d : IntDomain, d.bitWidth = 0 → config.allowZeroWidth = false →
    parse config d.text = .error (.zeroWidth d.text)
  /-- Another width of two digits is reported with its number. -/
  widthTooLarge : ∀ d : IntDomain, 65 ≤ d.bitWidth → d.bitWidth ≤ 99 →
    parse config d.text = .error (.widthTooLarge d.text d.bitWidth)
  /-- Of a width of more digits the length is reported. -/
  invalidWidthLength : ∀ d : IntDomain, 100 ≤ d.bitWidth →
    parse config d.text = .error (.invalidWidthLength d.text (toString d.bitWidth))

theorem parse_text_eq_ok_iff : parse config d.text = .ok d ↔
    d.bitWidth ≤ 64 ∧ (1 ≤ d.bitWidth ∨ config.allowZeroWidth = true) := by
  rw [parse_text]
  split
  · next hlong => exact iff_of_false (by simp) fun h => by omega
  split
  · next hlarge => exact iff_of_false (by simp) fun h => by omega
  split
  · next hzero =>
      refine iff_of_false (by simp) fun h => h.2.elim (fun hpos => by omega) fun hallow => ?_
      rw [hallow] at hzero
      exact absurd hzero.2 (by decide)
  · next hlarge hzero =>
      exact iff_of_true rfl ⟨by omega, one_le_or_allowed hzero⟩

/-- **Reading is inverse to writing, and writing to reading** but for a zero in front, under every
configuration. -/
theorem roundTrips (config : Config) : RoundTrips config where
  read_text descriptor d h mode := by
    have hlegal := parse_eq_ok_iff.1 h
    exact parse_text_eq_ok_iff.2 ⟨hlegal.le_max, hlegal.pos⟩
  text_eq descriptor d h hzero := by
    refine text_eq_of_parse h fun digit htext => hzero digit ?_
    rw [← ofList_keyword, ← String.ofList_append, ← htext, String.ofList_toList]
  text_of_leadingZero descriptor d digit h hzero := by
    rw [← ofList_keyword, ← String.ofList_append] at hzero ⊢
    rw [← toList_text_of_zero h (hzero ▸ String.toList_ofList), String.ofList_toList]
  read_iff _ := parse_text_eq_ok_iff
  zeroWidth d hwidth hallow := by
    rw [parse_text, if_neg (by omega), if_neg (by omega), if_pos ⟨hwidth, by rw [hallow]; rfl⟩]
  widthTooLarge d hlarge hle := by
    rw [parse_text, if_neg (by omega), if_pos (by omega)]
  invalidWidthLength d hlong := by
    rw [parse_text, if_pos hlong]

/-- A zero in front is lost, unless it is the whole width. -/
example : (parse {} "UINT04").map text = .ok "UINT4" ∧
    (parse { allowZeroWidth := true } "INT00").map text = .ok "INT0" ∧
    parse {} (text ⟨true, 100⟩) = .error (.invalidWidthLength "INT100" "100") := by
  decide +kernel

end Thresholding.IntDomain
