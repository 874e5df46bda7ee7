import Mathlib.Data.List.Induction
import Mathlib.Data.Nat.Digits.Defs
import Thresholding.Proofs.Domain.Outcome

/-!
# Thresholding.Proofs.Domain.Spelling

The **spelling of a domain**, told apart from how it is read: which texts name a domain, with
the keywords written out and the width as the number that its decimal digits stand for.

Reading takes a text for a domain exactly when the text spells the domain and the width is one
that the configuration allows (`parse_spelled`). Where the keyword is looked for makes no
difference to that.
-/

namespace Thresholding.IntDomain

/-- The number that decimal digits stand for, the last one being that of the ones. -/
def decimalValue (digits : List Char) : Nat :=
  Nat.ofDigits 10 (digits.reverse.map fun digit => digit.toNat - '0'.toNat)

/-- A text spells a domain: `INT` or `UINT`, and then the width in one or two ASCII digits, of
which the first may be zero. -/
def Spells (descriptor : String) (d : IntDomain) : Prop :=
  ∃ digits : List Char, descriptor = (if d.signed then "INT" else "UINT") ++ String.ofList digits ∧
    (digits.length = 1 ∨ digits.length = 2) ∧ (∀ c ∈ digits, '0' ≤ c ∧ c ≤ '9') ∧
    decimalValue digits = d.bitWidth

/-- Reading digits from the left, ten times what there is and one digit more, comes to their
number. -/
theorem numeralValue_eq (digits : List Char) : numeralValue digits = decimalValue digits := by
  induction digits using List.reverseRecOn with
  | nil => rfl
  | append_singleton digits last ih =>
      have hstep : numeralValue (digits ++ [last]) =
          10 * numeralValue digits + (last.toNat - '0'.toNat) := by
        simp only [numeralValue, List.foldl_append, List.foldl_cons, List.foldl_nil]
      rw [hstep, ih, decimalValue, decimalValue, List.reverse_concat, List.map_cons,
        Nat.ofDigits_cons, Nat.add_comm]

theorem isDigit_iff_le {c : Char} : c.isDigit = true ↔ '0' ≤ c ∧ c ≤ '9' := by
  rw [Char.isDigit_iff_toNat]
  rfl

theorem ofList_keyword (signed : Bool) :
    String.ofList (keyword signed) = if signed then "INT" else "UINT" := by
  cases signed <;> rfl

/-- The legal descriptors are the spellings of the domains with an allowed width. -/
theorem legal_iff_spells {config : Config} {descriptor : String} {d : IntDomain} :
    Legal config descriptor d ↔ Spells descriptor d ∧ d.bitWidth ≤ 64 ∧
      (1 ≤ d.bitWidth ∨ config.allowZeroWidth = true) := by
  have hspelled : (∃ digits, descriptor.toList = keyword d.signed ++ digits ∧
      (digits.length = 1 ∨ digits.length = 2) ∧ (∀ c ∈ digits, c.isDigit = true) ∧
      numeralValue digits = d.bitWidth) ↔ Spells descriptor d := by
    unfold Spells
    apply exists_congr
    intro digits
    rw [← ofList_keyword, ← String.ofList_append, ← String.toList_inj, String.toList_ofList,
      numeralValue_eq]
    simp only [isDigit_iff_le]
  constructor
  · intro h
    exact ⟨hspelled.1 h.spelled, h.le_max, h.pos⟩
  · intro h
    obtain ⟨hspells, hmax, hpos⟩ := h
    exact ⟨hspelled.2 hspells, hmax, hpos⟩

/-- **Reading accepts the spellings and nothing else**, for every text and configuration: a text is
read as a domain exactly if it spells the domain, whose width is at most 64 and positive unless
zero is allowed. In the other mode the same texts are accepted and read as the same domains. -/
theorem parse_spelled (config : Config) (descriptor : String) :
    (∀ d, parse config descriptor = .ok d ↔ Spells descriptor d ∧ d.bitWidth ≤ 64 ∧
      (1 ≤ d.bitWidth ∨ config.allowZeroWidth = true)) ∧
    ∀ mode : PrefixMatch, (parse { config with prefixMatch := mode } descriptor).toOption =
      (parse config descriptor).toOption := by
  constructor
  · intro d
    rw [parse_eq_ok_iff, legal_iff_spells]
  · intro mode
    apply toOption_parse_eq
    rfl

/-- A width may start with a zero. A keyword further right is refused in either mode, for another
reason in each. -/
example : parse {} "INT08" = .ok ⟨true, 8⟩ ∧
    parse {} "XINT8" = .error (.nonNumericWidth "XINT8" "T8") ∧
    parse { prefixMatch := .anchored } "XINT8" = .error (.unrecognizedPrefix "XINT8") := by
  decide +kernel

end Thresholding.IntDomain
