import Thresholding.Json.Basic

/-!
# Thresholding.Proofs.Json.Reading

**Reading JSON is exact.** A value has one list of tokens, and the reader answers with a
value on that list and on no other.

That the reader gets through the tokens of a value is shown by one lemma for each kind of
value. The converse is an invariant of the reader: its state tells which tokens it has
taken, and each step adds the token that it takes.

The scanner is followed for the tokens that are written in one way, whatever white space
stands between them.
-/

namespace Thresholding.Json

/-! ### The tokens of a value -/

theorem sizeOf_lt_of_member {member : Option String × Json}
    {members : List (Option String × Json)} (h : member ∈ members) :
    sizeOf member.2 < 1 + sizeOf members := by
  have := List.sizeOf_lt_of_mem h
  cases member
  simp only [Prod.mk.sizeOf_spec] at this ⊢
  omega

/-- The tokens that write a value. -/
def tokens : Json → List Token
  | null => [.null]
  | bool b => [.bool b]
  | number => [.number]
  | string content => [.string content]
  | array items => .openBracket :: [.comma].intercalate (items.map tokens) ++ [.closeBracket]
  | object members =>
    .openBrace :: [.comma].intercalate (members.map fun member =>
      .string member.1 :: .colon :: member.2.tokens) ++ [.closeBrace]
decreasing_by
  · simp_wf; have := List.sizeOf_lt_of_mem ‹_ ∈ items›; omega
  · simpa using sizeOf_lt_of_member ‹_ ∈ members›

/-- The tokens that write a member of an object. -/
def memberTokens (member : Option String × Json) : List Token :=
  .string member.1 :: .colon :: member.2.tokens

theorem tokens_object (members : List (Option String × Json)) :
    (object members).tokens =
      .openBrace :: [.comma].intercalate (members.map memberTokens) ++ [.closeBrace] := by
  simp only [tokens]
  rfl

/-- A separated list is its first part, and a separator before each other part. -/
theorem intercalate_cons {α : Type} (a : α) (part : List α) (parts : List (List α)) :
    [a].intercalate (part :: parts) = part ++ parts.flatMap (a :: ·) := by
  induction parts generalizing part with
  | nil => simp [List.intercalate]
  | cons next parts ih =>
    have shift : [a].intercalate (part :: next :: parts) =
        part ++ a :: [a].intercalate (next :: parts) := by
      simp [List.intercalate]
    rw [shift, ih, List.flatMap_cons, List.cons_append]

/-- A separated list is its last part, and a separator after each other part. -/
theorem intercalate_concat {α : Type} (a : α) (parts : List (List α)) (part : List α) :
    [a].intercalate (parts ++ [part]) = parts.flatMap (· ++ [a]) ++ part := by
  cases parts with
  | nil => simp [List.intercalate]
  | cons first parts =>
    rw [List.cons_append, intercalate_cons]
    induction parts generalizing first with
    | nil => simp
    | cons next parts ih => simpa using ih next

/-! ### The reader gets through the tokens of a value -/

/-- The state of the reader after some tokens more. -/
def Reader.run? (reader : Reader) (tokens : List Token) : Option Reader :=
  tokens.foldlM step? reader

@[simp] theorem Reader.run?_nil (reader : Reader) : reader.run? [] = some reader := rfl

@[simp] theorem Reader.run?_cons (reader : Reader) (token : Token) (tokens : List Token) :
    reader.run? (token :: tokens) = (reader.step? token).bind (run? · tokens) := rfl

@[simp] theorem Reader.complete_array (value : Json) (items : List Json) (frames : List Frame) :
    complete value (.array items :: frames) = afterItem (value :: items) frames := rfl

@[simp] theorem Reader.complete_object (value : Json) (members : List (Option String × Json))
    (key : Option String) (frames : List Frame) :
    complete value (.object members key :: frames) =
      afterMember ((key, value) :: members) frames := rfl

/-- Where a value may stand, the reader gets through its tokens, and then it is complete. -/
def Reads (value : Json) : Prop :=
  ∀ frames rest, (Reader.value frames).run? (value.tokens ++ rest) =
    (Reader.complete value frames).run? rest

/-- No value starts with the token that ends an array. -/
theorem run?_firstItem (value : Json) (frames : List Frame) (rest : List Token) :
    (Reader.firstItem frames).run? (value.tokens ++ rest) =
      (Reader.value (.array [] :: frames)).run? (value.tokens ++ rest) := by
  cases value <;> simp [tokens, Reader.step?]

theorem run?_items {items : List Json} (reads : ∀ value ∈ items, value.Reads)
    (read : List Json) (frames : List Frame) (rest : List Token) :
    (Reader.afterItem read frames).run?
        (items.flatMap (.comma :: ·.tokens) ++ .closeBracket :: rest) =
      (Reader.complete (.array (read.reverse ++ items)) frames).run? rest := by
  induction items generalizing read with
  | nil => simp [Reader.step?]
  | cons value items ih =>
    have others := ih (fun value mem => reads value (by simp [mem])) (value :: read)
    simp only [List.flatMap_cons, List.append_assoc, List.cons_append, Reader.run?_cons,
      Reader.step?, Option.bind_some, reads value (by simp) _ _, Reader.complete_array, others]
    simp

theorem reads_array {items : List Json} (reads : ∀ value ∈ items, value.Reads) :
    (array items).Reads := by
  intro frames rest
  cases items with
  | nil => simp [tokens, List.intercalate, Reader.step?, Reader.start?]
  | cons value items =>
    have others : ∀ value ∈ items, value.Reads := fun value mem => reads value (by simp [mem])
    simp [tokens, intercalate_cons, List.flatMap_map, Reader.step?, Reader.start?, run?_firstItem,
      reads value (by simp) _ _, run?_items others]

theorem run?_members {members : List (Option String × Json)}
    (reads : ∀ member ∈ members, member.2.Reads)
    (read : List (Option String × Json)) (frames : List Frame) (rest : List Token) :
    (Reader.afterMember read frames).run?
        (members.flatMap (.comma :: memberTokens ·) ++ .closeBrace :: rest) =
      (Reader.complete (.object (read.reverse ++ members)) frames).run? rest := by
  induction members generalizing read with
  | nil => simp [Reader.step?]
  | cons member members ih =>
    have others := ih (fun member mem => reads member (by simp [mem])) (member :: read)
    simp only [List.flatMap_cons, List.append_assoc, List.cons_append, memberTokens,
      Reader.run?_cons, Reader.step?, Option.bind_some, reads member (by simp) _ _,
      Reader.complete_object] at others ⊢
    simp [others]

theorem reads_object {members : List (Option String × Json)}
    (reads : ∀ member ∈ members, member.2.Reads) : (object members).Reads := by
  intro frames rest
  cases members with
  | nil => simp [tokens, List.intercalate, Reader.step?, Reader.start?]
  | cons member members =>
    have others := run?_members fun member mem => reads member (List.mem_cons_of_mem _ mem)
    simp only [memberTokens] at others
    simp [tokens_object, intercalate_cons, List.flatMap_map, memberTokens, Reader.step?,
      Reader.start?, reads member (by simp) _ _, others]

theorem reads (value : Json) : value.Reads := by
  match value with
  | null | bool _ | number | string _ =>
    intro frames rest
    simp [tokens, Reader.step?, Reader.start?]
  | array items => exact reads_array fun value _ => reads value
  | object members => exact reads_object fun member _ => reads member.2
termination_by value
decreasing_by
  · simp_wf; have := List.sizeOf_lt_of_mem ‹_ ∈ items›; omega
  · simpa using sizeOf_lt_of_member ‹_ ∈ members›

/-! ### The reader has taken the tokens of its state -/

/-- The tokens of an open value that come before the value that is read next. -/
def Frame.tokens : Frame → List Token
  | array items => .openBracket :: (items.map Json.tokens).reverse.flatMap (· ++ [.comma])
  | object members key =>
    .openBrace :: (members.map memberTokens).reverse.flatMap (· ++ [.comma])
      ++ [.string key, .colon]

/-- The tokens of the open values, innermost first, that come before what is read next. -/
def openTokens (frames : List Frame) : List Token := frames.reverse.flatMap Frame.tokens

@[simp] theorem openTokens_nil : openTokens [] = [] := rfl

@[simp] theorem openTokens_cons (frame : Frame) (frames : List Frame) :
    openTokens (frame :: frames) = openTokens frames ++ frame.tokens := by
  simp [openTokens]

/-- The tokens that bring the reader to a state. -/
def Reader.tokens : Reader → List Token
  | value frames => openTokens frames
  | firstItem frames => openTokens frames ++ [.openBracket]
  | afterItem items frames =>
    openTokens frames ++ .openBracket :: [.comma].intercalate (items.map Json.tokens).reverse
  | firstKey frames => openTokens frames ++ [.openBrace]
  | nextKey members frames =>
    openTokens frames ++ .openBrace :: (members.map memberTokens).reverse.flatMap (· ++ [.comma])
  | colon members key frames =>
    openTokens frames ++ .openBrace :: (members.map memberTokens).reverse.flatMap (· ++ [.comma])
      ++ [.string key]
  | afterMember members frames =>
    openTokens frames ++ .openBrace :: [.comma].intercalate (members.map memberTokens).reverse
  | done result => result.tokens

/-- After an element there is an element, and after a member a member. -/
def Reader.Valid : Reader → Prop
  | afterItem items _ => items ≠ []
  | afterMember members _ => members ≠ []
  | _ => True

/-- The reader is where some tokens bring it. -/
structure Reader.Took (reader : Reader) (taken : List Token) : Prop where
  valid : reader.Valid
  tokens_eq : reader.tokens = taken

theorem Reader.took_complete (value : Json) (frames : List Frame) :
    (complete value frames).Took (openTokens frames ++ value.tokens) := by
  match frames with
  | [] => exact ⟨trivial, by simp [complete, tokens]⟩
  | .array items :: frames =>
    refine ⟨by simp [Valid], ?_⟩
    simp [tokens, intercalate_concat, Frame.tokens]
  | .object members key :: frames =>
    refine ⟨by simp [Valid], ?_⟩
    simp [tokens, intercalate_concat, Frame.tokens, memberTokens]

theorem Reader.took_start? {frames : List Frame} {token : Token} {reader : Reader}
    (h : start? frames token = some reader) : reader.Took (openTokens frames ++ [token]) := by
  cases token <;> simp only [start?, Option.some.injEq, reduceCtorEq] at h <;> subst h
  case openBrace | openBracket => exact ⟨trivial, by simp [tokens]⟩
  case null => simpa [Json.tokens] using took_complete .null frames
  case bool b => simpa [Json.tokens] using took_complete (.bool b) frames
  case number => simpa [Json.tokens] using took_complete .number frames
  case string content => simpa [Json.tokens] using took_complete (.string content) frames

/-- **Step.** The reader adds the token that it takes. -/
theorem Reader.took_step? {reader next : Reader} {taken : List Token} {token : Token}
    (took : reader.Took taken) (h : reader.step? token = some next) :
    next.Took (taken ++ [token]) := by
  obtain ⟨valid, rfl⟩ := took
  unfold step? at h
  split at h
  case h_1 => exact took_start? h
  case h_2 frames =>
    cases h
    simpa [tokens, Json.tokens] using took_complete (.array []) frames
  case h_3 frames _ => simpa [tokens, Frame.tokens] using took_start? h
  case h_4 items frames =>
    cases h
    simpa [tokens, Json.tokens] using took_complete (.array items.reverse) frames
  case h_5 items frames =>
    cases h
    obtain ⟨item, items, rfl⟩ := List.exists_cons_of_ne_nil valid
    exact ⟨trivial, by simp [tokens, intercalate_concat, Frame.tokens]⟩
  case h_6 frames =>
    cases h
    simpa [tokens, Json.tokens] using took_complete (.object []) frames
  case h_7 | h_8 | h_9 =>
    cases h
    exact ⟨trivial, by simp [tokens, Frame.tokens]⟩
  case h_10 members frames =>
    cases h
    simpa [tokens, tokens_object] using took_complete (.object members.reverse) frames
  case h_11 members frames =>
    cases h
    obtain ⟨member, members, rfl⟩ := List.exists_cons_of_ne_nil valid
    exact ⟨trivial, by simp [tokens, intercalate_concat]⟩
  case h_12 => cases h

/-- **Run.** The reader has taken exactly the tokens that it was given. -/
theorem Reader.took_run? {reader last : Reader} {taken rest : List Token}
    (took : reader.Took taken) (h : reader.run? rest = some last) : last.Took (taken ++ rest) := by
  induction rest generalizing reader taken with
  | nil =>
    rw [run?_nil, Option.some.injEq] at h
    subst h
    rwa [List.append_nil]
  | cons token rest ih =>
    rw [run?_cons, Option.bind_eq_some_iff] at h
    obtain ⟨next, step, h⟩ := h
    simpa using ih (took_step? took step) h

/-! ### The reader is exact -/

theorem ofTokens?_eq (tokens : List Token) :
    ofTokens? tokens = (Reader.run? (.value []) tokens).bind fun
      | .done value => some value
      | _ => none := by
  rw [ofTokens?, Reader.run?]
  cases tokens.foldlM Reader.step? (.value []) with
  | none => rfl
  | some reader => cases reader <;> rfl

/-- The reader answers with a value on the tokens of that value and on no others. -/
theorem ofTokens?_eq_some_iff {value : Json} {tokens : List Token} :
    ofTokens? tokens = some value ↔ tokens = value.tokens := by
  rw [ofTokens?_eq]
  constructor
  · intro h
    obtain ⟨last, run, answer⟩ := Option.bind_eq_some_iff.mp h
    have start : (Reader.value []).Took [] := ⟨trivial, rfl⟩
    have took : last.Took ([] ++ tokens) := Reader.took_run? start run
    split at answer
    · simp only [Option.some.injEq] at answer
      subst answer
      exact took.tokens_eq.symm
    · cases answer
  · rintro rfl
    have through := value.reads [] []
    rw [List.append_nil] at through
    rw [through]
    rfl

/-- A text writes a value if its tokens are those of the value, whatever white space stands
between them. -/
theorem read?_eq_some_iff {value : Json} {text : String} :
    read? text = some value ↔ tokens? text.toList = some value.tokens := by
  rw [read?, Option.bind_eq_some_iff]
  constructor
  · rintro ⟨tokens, scanned, h⟩
    rwa [← ofTokens?_eq_some_iff.mp h]
  · exact fun scanned => ⟨_, scanned, ofTokens?_eq_some_iff.mpr rfl⟩

/-! ### Written text -/

/-- Whether a character stands for itself in a string. -/
def isPlain (c : Char) : Bool := c != '"' && c != '\\' && 0x20 ≤ c.toNat

theorem stringContent?_plain {content : List Char} (plain : ∀ c ∈ content, isPlain c)
    (text : List Char) :
    stringContent? (content ++ '"' :: text) =
      some (content.map Char.toNat, ⟨text, by simp; omega⟩) := by
  induction content with
  | nil => simp [stringContent?]
  | cons c content ih =>
    have ⟨⟨_, backslash⟩, printed⟩ : (c ≠ '"' ∧ c ≠ '\\') ∧ 0x20 ≤ c.toNat := by
      simpa [isPlain] using plain c (by simp)
    have others := ih fun c mem => plain c (by simp [mem])
    have step : ¬ c.toNat < 0x20 := by omega
    simp [stringContent?, backslash, others, step]

theorem not_surrogate (c : Char) :
    isLeadingSurrogate c.toNat = false ∧ isTrailingSurrogate c.toNat = false := by
  have valid : c.toNat < 0xd800 ∨ 0xdfff < c.toNat ∧ c.toNat < 0x110000 := c.valid
  simp only [isLeadingSurrogate, isTrailingSurrogate, Bool.and_eq_false_iff,
    decide_eq_false_iff_not]
  omega

theorem characters?_map_toNat (content : List Char) :
    characters? (content.map Char.toNat) = some content := by
  induction content with
  | nil => simp [characters?]
  | cons c content ih =>
    cases content with
    | nil => simp [characters?, not_surrogate]
    | cons d content =>
      rw [List.map_cons] at ih
      simp [characters?, not_surrogate, ih]

/-- The characters that write a token. Numbers and strings with escapes are left out: they
are written in many ways. -/
def Token.lexeme? : Token → Option (List Char)
  | openBrace => some ['{']
  | closeBrace => some ['}']
  | openBracket => some ['[']
  | closeBracket => some [']']
  | colon => some [':']
  | comma => some [',']
  | null => some ['n', 'u', 'l', 'l']
  | bool true => some ['t', 'r', 'u', 'e']
  | bool false => some ['f', 'a', 'l', 's', 'e']
  | string (some content) =>
    if content.toList.all isPlain then some ('"' :: content.toList ++ ['"']) else none
  | number | string none => none

theorem Token.lexeme?_string (content : String) (plain : content.toList.all isPlain) :
    (string (some content)).lexeme? = some ('"' :: content.toList ++ ['"']) :=
  if_pos plain

/-- A text writes tokens one after the other, with any white space around them. -/
inductive Writes : List Char → List Token → Prop
  | nil : Writes [] []
  | space {c : Char} {text : List Char} {tokens : List Token} :
    isSpace c → Writes text tokens → Writes (c :: text) tokens
  | token {lexeme text : List Char} {token : Token} {tokens : List Token} :
    token.lexeme? = some lexeme → Writes text tokens → Writes (lexeme ++ text) (token :: tokens)

theorem tokens?_of_scan? {c : Char} {text rest : List Char} {token : Token}
    (visible : isSpace c = false) (lt : rest.length < (c :: text).length)
    (h : scan? (c :: text) = some (token, ⟨rest, lt⟩)) :
    tokens? (c :: text) = (tokens? rest).map (token :: ·) := by
  rw [tokens?, visible, h]
  rfl

theorem tokens?_string {content : String} (plain : content.toList.all isPlain) (text : List Char) :
    tokens? ('"' :: (content.toList ++ '"' :: text)) =
      (tokens? text).map (.string (some content) :: ·) := by
  rw [List.all_eq_true] at plain
  exact tokens?_of_scan? rfl (by simp; omega)
    (by simp [scan?, stringContent?_plain plain, characters?_map_toNat])

theorem tokens?_lexeme {token : Token} {lexeme : List Char} (h : token.lexeme? = some lexeme)
    (text : List Char) : tokens? (lexeme ++ text) = (tokens? text).map (token :: ·) := by
  cases token with
  | number => cases h
  | string content =>
    cases content with
    | none => cases h
    | some content =>
      simp only [Token.lexeme?, Option.ite_none_right_eq_some, Option.some.injEq] at h
      obtain ⟨plain, rfl⟩ := h
      simpa using tokens?_string plain text
  | bool b => cases b <;> cases h <;> exact tokens?_of_scan? rfl (by simp; omega) (by simp [scan?])
  | _ => cases h; exact tokens?_of_scan? rfl (by simp <;> omega) (by simp [scan?])

theorem Writes.tokens?_eq {text : List Char} {tokens : List Token} (written : Writes text tokens) :
    tokens? text = some tokens := by
  induction written with
  | nil => simp [tokens?]
  | space space _ ih => rw [tokens?, if_pos space, ih]
  | token h _ ih => rw [tokens?_lexeme h, ih, Option.map_some]

/-- A text that writes the tokens of a value reads as that value. -/
theorem read?_of_writes {text : String} {value : Json} (written : Writes text.toList value.tokens) :
    read? text = some value :=
  read?_eq_some_iff.mpr written.tokens?_eq

end Thresholding.Json
