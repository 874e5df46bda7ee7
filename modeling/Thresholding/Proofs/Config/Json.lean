import Thresholding.Config.Json
import Thresholding.Proofs.Json.Reading

/-!
# Thresholding.Proofs.Config.Json

**The JSON form of the configuration.**

An object is read field by field: a field may stand anywhere among the members, has its
default if it is absent, and is refused if it is repeated; members of other names do not
matter. What is written of a configuration reads back as that configuration.
-/

namespace Thresholding

theorem PrefixMatch.ofContent?_text (mode : PrefixMatch) :
    ofContent? (some mode.text) = some mode := by
  cases mode <;> rfl

namespace Config

/-! ### Reading an object -/

/-- A field has a value among the members of an object: that of the one member of its name,
or the default if there is none. -/
def HasField {α : Type} (members : List (Option String × Json)) (name : String)
    (ofJson? : Json → Option α) (default value : α) : Prop :=
  ((∀ member ∈ members, member.1 ≠ some name) ∧ value = default) ∨
    ∃ before json after, members = before ++ (some name, json) :: after ∧
      (∀ member ∈ before ++ after, member.1 ≠ some name) ∧ ofJson? json = some value

theorem filter_name_eq_nil_iff {members : List (Option String × Json)} {name : String} :
    members.filter (·.1 == some name) = [] ↔ ∀ member ∈ members, member.1 ≠ some name := by
  simp [List.filter_eq_nil_iff]

theorem filter_name_eq_singleton_iff {members : List (Option String × Json)} {name : String}
    {key : Option String} {json : Json} :
    members.filter (·.1 == some name) = [(key, json)] ↔
      key = some name ∧ ∃ before after, members = before ++ (some name, json) :: after ∧
        ∀ member ∈ before ++ after, member.1 ≠ some name := by
  rw [List.filter_eq_cons_iff]
  constructor
  · rintro ⟨before, after, rfl, absent, named, rest⟩
    obtain rfl : key = some name := by simpa using named
    refine ⟨rfl, before, after, rfl, fun member mem => ?_⟩
    rcases List.mem_append.mp mem with mem | mem
    · simpa using absent member mem
    · exact filter_name_eq_nil_iff.mp rest member mem
  · rintro ⟨rfl, before, after, rfl, absent⟩
    refine ⟨before, after, rfl, fun member mem => ?_, by simp, ?_⟩
    · simpa using absent member (List.mem_append_left _ mem)
    · refine filter_name_eq_nil_iff.mpr fun member mem => ?_
      exact absent member (List.mem_append_right _ mem)

theorem field?_eq_some_iff {α : Type} {members : List (Option String × Json)} {name : String}
    {ofJson? : Json → Option α} {default value : α} :
    field? members name ofJson? default = some value ↔
      HasField members name ofJson? default value := by
  constructor
  · intro h
    rw [field?] at h
    split at h
    · next absent =>
      exact .inl ⟨filter_name_eq_nil_iff.mp absent, (Option.some.inj h).symm⟩
    · next key json found =>
      obtain ⟨-, before, after, members_eq, others⟩ := filter_name_eq_singleton_iff.mp found
      exact .inr ⟨before, json, after, members_eq, others, h⟩
    · cases h
  · rintro (⟨absent, rfl⟩ | ⟨before, json, after, members_eq, others, h⟩)
    · rw [field?, filter_name_eq_nil_iff.mpr absent]
    · rw [field?, filter_name_eq_singleton_iff.mpr ⟨rfl, before, after, members_eq, others⟩]
      exact h

/-- **Reading an object.** All keys have to be text, and the configuration has, field by
field, what the members say. -/
theorem ofJson?_object_eq_some_iff {members : List (Option String × Json)} {config : Config} :
    ofJson? (.object members) = some config ↔
      (∀ member ∈ members, member.1 ≠ none) ∧
        HasField members prefixField PrefixMatch.ofJson? .substring config.prefixMatch ∧
        HasField members zeroWidthField switchOfJson? false config.allowZeroWidth := by
  simp only [← field?_eq_some_iff]
  have keys : members.any (·.1.isNone) = false ↔ ∀ member ∈ members, member.1 ≠ none := by
    simp
  obtain ⟨mode, zeroWidth⟩ := config
  rw [ofJson?, ← keys]
  cases members.any (·.1.isNone) with
  | true => simp
  | false => simp [Option.bind_eq_some_iff]

/-- Members of other names leave every field at its default. -/
theorem ofJson?_of_absent {members : List (Option String × Json)}
    (others : ∀ member ∈ members, ∃ name, member.1 = some name ∧
      name ≠ prefixField ∧ name ≠ zeroWidthField) :
    ofJson? (.object members) = some default := by
  have absent : ∀ member ∈ members, member.1 ≠ none ∧ member.1 ≠ some prefixField ∧
      member.1 ≠ some zeroWidthField := by
    intro member mem
    obtain ⟨name, named, notPrefix, notZeroWidth⟩ := others member mem
    simp [named, notPrefix, notZeroWidth]
  exact ofJson?_object_eq_some_iff.mpr ⟨fun member mem => (absent member mem).1,
    .inl ⟨fun member mem => (absent member mem).2.1, rfl⟩,
    .inl ⟨fun member mem => (absent member mem).2.2, rfl⟩⟩

/-! ### Reading back what is written -/

/-- The JSON value of a configuration. -/
def toJson (config : Config) : Json :=
  .object [(some prefixField, .string (some config.prefixMatch.text)),
    (some zeroWidthField, .bool config.allowZeroWidth)]

theorem ofJson?_toJson (config : Config) : ofJson? config.toJson = some config := by
  refine ofJson?_object_eq_some_iff.mpr ⟨by simp, .inr ?_, .inr ?_⟩
  · exact ⟨[], _, _, rfl, by simp [prefixField, zeroWidthField],
      PrefixMatch.ofContent?_text config.prefixMatch⟩
  · exact ⟨[_], _, [], rfl, by simp [prefixField, zeroWidthField], rfl⟩

/-- A text that writes a value is read as the configuration that the value stands for,
whatever white space stands in it. -/
theorem read?_of_writes {text : String} {value : Json}
    (written : Json.Writes text.toList value.tokens) : read? text = ofJson? value := by
  rw [read?, Json.read?_of_writes written, Option.bind_some]

/-- The text of a configuration writes its value, lexeme by lexeme. -/
theorem writes_json (config : Config) : Json.Writes config.json.toList config.toJson.tokens := by
  obtain ⟨mode, zeroWidth⟩ := config
  have modeField := Json.Token.lexeme?_string prefixField (by decide)
  have modeText := Json.Token.lexeme?_string mode.text (by cases mode <;> decide)
  have switchField := Json.Token.lexeme?_string zeroWidthField (by decide)
  have switchText : (Json.Token.bool zeroWidth).lexeme? =
      some (if zeroWidth then "true" else "false").toList := by
    cases zeroWidth <;> decide
  have written : Json.Writes _ [.openBrace, .string (some prefixField), .colon,
      .string (some mode.text), .comma, .string (some zeroWidthField), .colon, .bool zeroWidth,
      .closeBrace] :=
    .token rfl <| .token modeField <| .token rfl <| .token modeText <| .token rfl <|
      .token switchField <| .token rfl <| .token switchText <| .token rfl .nil
  simpa [json, PrefixMatch.json, toJson, Json.tokens, List.intercalate] using written

/-- **Reading back.** The text of a configuration reads as that configuration. -/
theorem read?_json (config : Config) : read? config.json = some config := by
  rw [read?_of_writes (writes_json config), ofJson?_toJson]

end Config

end Thresholding
