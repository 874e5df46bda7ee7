import Mathlib.Logic.Function.Basic
import Thresholding.Config.Environment
import Thresholding.Proofs.Text.CaseFolding

/-!
# Thresholding.Proofs.Config.Environment

**Which environments change the configuration**, and what they change.

The two variables fold the case of their values in different ways, but come to the same: the mode
folds ASCII letters, the switch the letters of all scripts, and none of its words is the lower-case
form of a text beyond ASCII. So either variable is recognised by the case variants of its words.
-/

namespace Thresholding

/-- A mode is named by its text, in any case. -/
theorem PrefixMatch.ofName_eq_ok_iff {name : String} {mode : PrefixMatch} :
    ofName name = .ok mode ↔ CaseVariant name mode.text := by
  have hlower : ∀ d ∈ mode.text.toList, ¬ d.isUpper := by
    cases mode <;> simp [text]
  have hfold : String.ofList (name.toList.map Char.toLower) = mode.text ↔
      CaseVariant name mode.text := by
    rw [← String.toList_inj, String.toList_ofList, map_toLower_eq_iff hlower, CaseVariant]
  rw [← hfold, ofName]
  generalize String.ofList (name.toList.map Char.toLower) = folded
  split
  · cases mode <;> simp [text]
  · cases mode <;> simp [text]
  · next hsubstring hanchored =>
      refine iff_of_false (by simp) fun h => ?_
      cases mode with
      | substring => exact hsubstring h
      | anchored => exact hanchored h

namespace Config

variable {lookup : String → Option String} {value : String} {lowered : List Char}

theorem mode?_eq_some_iff {mode : PrefixMatch} :
    mode? value = some mode ↔ CaseVariant value mode.text := by
  rw [mode?, ← PrefixMatch.ofName_eq_ok_iff]
  cases PrefixMatch.ofName value <;> simp [Except.toOption]

/-- The words for a switch that is on, in lower case. -/
def IsOn (lowered : List Char) : Prop :=
  String.ofList lowered = "1" ∨ String.ofList lowered = "true"

theorem switch?_eq_some_true_iff : switch? value = some true ↔ IsOn (lowerCase value.toList) := by
  rw [IsOn, switch?]
  generalize String.ofList (lowerCase value.toList) = folded
  split <;> simp_all

/-- **A switch is on** exactly if its value is `1` or a case variant of `true`, whichever forms its
sigmas have. -/
theorem isOn_iff (h : LowersTo value.toList lowered) :
    IsOn lowered ↔ value = "1" ∨ CaseVariant value "true" := by
  have hone : lowered = "1".toList ↔ value = "1" := by
    have hdigit : ∀ c, SameLetter c '1' ↔ c = '1' := fun c => sameLetter_iff_eq rfl
    rw [h.eq_iff (by simp), map_toLower_eq_iff (by simp), ← String.toList_inj]
    simp [List.forall₂_cons_right_iff, hdigit]
  have htrue : lowered = "true".toList ↔ CaseVariant value "true" := by
    rw [h.eq_iff (by simp), map_toLower_eq_iff (by simp), CaseVariant]
  rw [← hone, ← htrue, IsOn, ← String.toList_inj, ← String.toList_inj]
  simp only [String.toList_ofList]

/-! ### The fields -/

/-- The mode is the one that its variable names, if it names one other than the default. -/
theorem prefixMatch_eq_anchored_iff : (ofEnvironment lookup).prefixMatch = .anchored ↔
    ∃ value, lookup prefixVariable = some value ∧ CaseVariant value "anchored" := by
  have hmode : (ofEnvironment lookup).prefixMatch = .anchored ↔
      (lookup prefixVariable).bind mode? = some .anchored := by
    rw [ofEnvironment]
    rcases (lookup prefixVariable).bind mode? with _ | mode
    · simp
    · simp
  rw [hmode, Option.bind_eq_some_iff]
  simp only [mode?_eq_some_iff]
  rfl

/-- A width of zero is allowed if its variable is set to a word for that. -/
theorem allowZeroWidth_eq_true_iff : (ofEnvironment lookup).allowZeroWidth = true ↔
    ∃ value, lookup zeroWidthVariable = some value ∧ (value = "1" ∨ CaseVariant value "true") := by
  have hswitch : (ofEnvironment lookup).allowZeroWidth = true ↔
      (lookup zeroWidthVariable).bind switch? = some true := by
    rw [ofEnvironment]
    rcases (lookup zeroWidthVariable).bind switch? with _ | switch
    · simp
    · simp
  rw [hswitch, Option.bind_eq_some_iff]
  simp only [switch?_eq_some_true_iff, isOn_iff (lowersTo_lowerCase _)]

theorem allowZeroWidth_of_set (h : lookup zeroWidthVariable = some value) :
    (ofEnvironment lookup).allowZeroWidth = true ↔ value = "1" ∨ CaseVariant value "true" := by
  rw [allowZeroWidth_eq_true_iff]
  refine ⟨fun ⟨value', hset, hword⟩ => ?_, fun hword => ⟨value, h, hword⟩⟩
  rwa [Option.some.inj (h.symm.trans hset)]

/-- The configuration that an environment asks for, and which of its variables do. -/
structure FollowsVariables (lookup : String → Option String) : Prop where
  /-- The mode is the anchored one exactly if its variable names that one, in any case. -/
  anchored_iff : (ofEnvironment lookup).prefixMatch = .anchored ↔
    ∃ value, lookup prefixVariable = some value ∧ CaseVariant value "anchored"
  /-- It is the lenient one otherwise. -/
  substring_iff : (ofEnvironment lookup).prefixMatch = .substring ↔
    ¬ ∃ value, lookup prefixVariable = some value ∧ CaseVariant value "anchored"
  /-- A width of zero is allowed exactly if its variable is set to `1`, or to `true` in any case. -/
  allowed_iff : (ofEnvironment lookup).allowZeroWidth = true ↔
    ∃ value, lookup zeroWidthVariable = some value ∧ (value = "1" ∨ CaseVariant value "true")
  /-- It is forbidden otherwise. -/
  forbidden_iff : (ofEnvironment lookup).allowZeroWidth = false ↔
    ¬ ∃ value, lookup zeroWidthVariable = some value ∧ (value = "1" ∨ CaseVariant value "true")
  /-- No value with a character beyond ASCII allows it. -/
  forbidden_of_beyond_ascii : ∀ value, lookup zeroWidthVariable = some value →
    (∃ c ∈ value.toList, 128 ≤ c.toNat) → (ofEnvironment lookup).allowZeroWidth = false
  /-- What decides is the lower-case form of the value, whichever forms its sigmas have. -/
  allowed_iff_lowered : ∀ value lowered, lookup zeroWidthVariable = some value →
    LowersTo value.toList lowered →
    ((ofEnvironment lookup).allowZeroWidth = true ↔ IsOn lowered)
  /-- The mode depends on its own variable. -/
  prefixMatch_eq : ∀ lookup' : String → Option String,
    lookup' prefixVariable = lookup prefixVariable →
    (ofEnvironment lookup').prefixMatch = (ofEnvironment lookup).prefixMatch
  /-- The switch depends on its own variable. -/
  allowZeroWidth_eq : ∀ lookup' : String → Option String,
    lookup' zeroWidthVariable = lookup zeroWidthVariable →
    (ofEnvironment lookup').allowZeroWidth = (ofEnvironment lookup).allowZeroWidth
  /-- Setting any other variable changes nothing. -/
  update_eq : ∀ name value?, name ≠ prefixVariable → name ≠ zeroWidthVariable →
    ofEnvironment (Function.update lookup name value?) = ofEnvironment lookup
  /-- The two variables are different ones. -/
  variables_ne : prefixVariable ≠ zeroWidthVariable

/-- **The environment is read exactly and independently**, whatever variables it has. -/
theorem followsVariables (lookup : String → Option String) : FollowsVariables lookup where
  anchored_iff := prefixMatch_eq_anchored_iff
  substring_iff := by
    rw [← prefixMatch_eq_anchored_iff]
    cases (ofEnvironment lookup).prefixMatch <;> decide
  allowed_iff := allowZeroWidth_eq_true_iff
  forbidden_iff := by rw [← Bool.not_eq_true, allowZeroWidth_eq_true_iff]
  forbidden_of_beyond_ascii value hset hbeyond := by
    obtain ⟨c, hc, hle⟩ := hbeyond
    rw [← Bool.not_eq_true, allowZeroWidth_of_set hset]
    rintro (rfl | hvariant)
    · have hdigit : c = '1' := by simpa using hc
      exact absurd hle (by rw [hdigit]; decide)
    · exact absurd (hvariant.toNat_lt (by simp) c hc) (Nat.not_lt.2 hle)
  allowed_iff_lowered value lowered hset hlowered := by
    rw [allowZeroWidth_of_set hset, isOn_iff hlowered]
  prefixMatch_eq lookup' h := by simp only [ofEnvironment, h]
  allowZeroWidth_eq lookup' h := by simp only [ofEnvironment, h]
  update_eq name value? hprefix hzeroWidth := by
    simp only [ofEnvironment, Function.update_of_ne hprefix.symm,
      Function.update_of_ne hzeroWidth.symm]
  variables_ne := by decide

/-- Letters that only look like those of a word, or that have one of them as their capital, do not
count: the `ſ` of the last value is a small letter, and its capital is `S`. -/
example : switch? "TrUE" = some true ∧ switch? "ＴＲＵＥ" = none ∧
    switch? "falſe" = none ∧ mode? "ANCHored" = some .anchored := by
  decide +kernel

end Config

end Thresholding
