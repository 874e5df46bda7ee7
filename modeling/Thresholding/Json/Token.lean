/-!
# Thresholding.Json.Token

The **tokens of JSON text**.

Design points:

* The reader is strict: no comments, no trailing commas, numbers and escapes exactly as
  the grammar has them, white space of four characters.
* What no consumer asks for is not kept: a number is a token without a value.
* The escapes of a string may name lone surrogates, which no text holds. Such a string is
  still a token, with no content.
* Each scanner returns the characters that follow its lexeme, with the fact that they are
  fewer; `tokens?` recurses on that.
-/

namespace Thresholding.Json

/-- A token of JSON text. -/
inductive Token
  /-- The start of an object. -/
  | openBrace
  /-- The end of an object. -/
  | closeBrace
  /-- The start of an array. -/
  | openBracket
  /-- The end of an array. -/
  | closeBracket
  /-- What stands between a key and its value. -/
  | colon
  /-- What stands between two elements or two members. -/
  | comma
  /-- The null literal. -/
  | null
  /-- One of the two Boolean literals. -/
  | bool (value : Bool)
  /-- A number. -/
  | number
  /-- A string, with its content unless the content is no text. -/
  | string (content : Option String)
  deriving Repr, DecidableEq

/-- The characters after a lexeme: fewer than before it. -/
abbrev Rest (text : List Char) : Type := { rest : List Char // rest.length < text.length }

/-- White space: space, tab, line feed and carriage return. -/
def isSpace (c : Char) : Bool := c == ' ' || c == '\t' || c == '\n' || c == '\r'

/-! ### Numbers -/

theorem length_dropWhile_le (p : Char → Bool) (text : List Char) :
    (text.dropWhile p).length ≤ text.length :=
  (List.dropWhile_suffix p).length_le

/-- A digit and all the digits that follow it. -/
def digits? : (text : List Char) → Option (Rest text)
  | [] => none
  | c :: text =>
    if c.isDigit then
      some ⟨text.dropWhile Char.isDigit, Nat.lt_succ_of_le (length_dropWhile_le _ _)⟩
    else none

/-- The digits of a number before its point. A zero is not followed by more of them. -/
def integerPart? : (text : List Char) → Option (Rest text)
  | '0' :: text => some ⟨text, Nat.lt_succ_self _⟩
  | text => digits? text

/-- The characters after an optional part of a lexeme: no more than before it. -/
abbrev Remaining (text : List Char) : Type := { rest : List Char // rest.length ≤ text.length }

/-- The fraction of a number, if it has one. -/
def fraction? : (text : List Char) → Option (Remaining text)
  | '.' :: text => (digits? text).map fun (rest : Rest text) =>
      ⟨rest.1, by have := rest.2; simp; omega⟩
  | text => some ⟨text, Nat.le_refl _⟩

/-- The sign of an exponent, if it has one. -/
def exponentSign : (text : List Char) → Remaining text
  | '+' :: text => ⟨text, by simp⟩
  | '-' :: text => ⟨text, by simp⟩
  | text => ⟨text, Nat.le_refl _⟩

/-- The exponent of a number, if it has one. -/
def exponent? : (text : List Char) → Option (Remaining text)
  | [] => some ⟨[], Nat.le_refl _⟩
  | c :: text =>
    if c = 'e' ∨ c = 'E' then
      let unsigned := exponentSign text
      (digits? unsigned.1).map fun (rest : Rest unsigned.1) =>
        ⟨rest.1, by have := rest.2; have := unsigned.2; simp; omega⟩
    else some ⟨c :: text, Nat.le_refl _⟩

/-- A number without its sign. -/
def magnitude? (text : List Char) : Option (Rest text) := do
  let whole ← integerPart? text
  let fraction ← fraction? whole.1
  let exponent ← exponent? fraction.1
  return ⟨exponent.1, by have := whole.2; have := fraction.2; have := exponent.2; omega⟩

/-! ### Strings -/

/-- The value of a hexadecimal digit. -/
def hexDigit? (c : Char) : Option Nat :=
  if '0' ≤ c ∧ c ≤ '9' then some (c.toNat - '0'.toNat)
  else if 'a' ≤ c ∧ c ≤ 'f' then some (c.toNat - 'a'.toNat + 10)
  else if 'A' ≤ c ∧ c ≤ 'F' then some (c.toNat - 'A'.toNat + 10)
  else none

/-- The code unit that four hexadecimal digits name. -/
def codeUnit? (a b c d : Char) : Option Nat := do
  return (((← hexDigit? a) * 16 + (← hexDigit? b)) * 16 + (← hexDigit? c)) * 16 + (← hexDigit? d)

/-- The character that an escape of one letter stands for. -/
def escaped? : Char → Option Char
  | '"' => some '"'
  | '\\' => some '\\'
  | '/' => some '/'
  | 'b' => some '\x08'
  | 'f' => some '\x0c'
  | 'n' => some '\n'
  | 'r' => some '\r'
  | 't' => some '\t'
  | _ => none

/-- The content of a string from after its opening quote, as code points, surrogates that
escapes name among them. Control characters have to be escaped. -/
def stringContent? : (text : List Char) → Option (List Nat × Rest text)
  | '"' :: text => some ([], ⟨text, Nat.lt_succ_self _⟩)
  | '\\' :: 'u' :: a :: b :: c :: d :: text => do
    let unit ← codeUnit? a b c d
    let (units, rest) ← stringContent? text
    return (unit :: units, ⟨rest.1, by have := rest.2; simp; omega⟩)
  | '\\' :: c :: text => do
    let char ← escaped? c
    let (units, rest) ← stringContent? text
    return (char.toNat :: units, ⟨rest.1, by have := rest.2; simp; omega⟩)
  | c :: text =>
    if c.toNat < 0x20 then none
    else do
      let (units, rest) ← stringContent? text
      return (c.toNat :: units, ⟨rest.1, by have := rest.2; simp; omega⟩)
  | [] => none

/-- Whether a code point is a surrogate that starts a pair. -/
def isLeadingSurrogate (code : Nat) : Bool := 0xD800 ≤ code && code < 0xDC00

/-- Whether a code point is a surrogate that ends a pair. -/
def isTrailingSurrogate (code : Nat) : Bool := 0xDC00 ≤ code && code < 0xE000

/-- The characters of code points, pairs of surrogates joined. A surrogate that is not
part of a pair makes it no text. -/
def characters? : List Nat → Option (List Char)
  | [] => some []
  | [code] =>
    if isLeadingSurrogate code || isTrailingSurrogate code then none else some [Char.ofNat code]
  | code :: next :: rest =>
    if isLeadingSurrogate code && isTrailingSurrogate next then
      (characters? rest).map (Char.ofNat (0x10000 + (code - 0xD800) * 0x400 + (next - 0xDC00)) :: ·)
    else if isLeadingSurrogate code || isTrailingSurrogate code then none
    else (characters? (next :: rest)).map (Char.ofNat code :: ·)

/-! ### Tokens -/

/-- The token at the start of a text that does not start with white space. -/
def scan? : (text : List Char) → Option (Token × Rest text)
  | '{' :: text => some (.openBrace, ⟨text, Nat.lt_succ_self _⟩)
  | '}' :: text => some (.closeBrace, ⟨text, Nat.lt_succ_self _⟩)
  | '[' :: text => some (.openBracket, ⟨text, Nat.lt_succ_self _⟩)
  | ']' :: text => some (.closeBracket, ⟨text, Nat.lt_succ_self _⟩)
  | ':' :: text => some (.colon, ⟨text, Nat.lt_succ_self _⟩)
  | ',' :: text => some (.comma, ⟨text, Nat.lt_succ_self _⟩)
  | 'n' :: 'u' :: 'l' :: 'l' :: text => some (.null, ⟨text, by simp; omega⟩)
  | 't' :: 'r' :: 'u' :: 'e' :: text => some (.bool true, ⟨text, by simp; omega⟩)
  | 'f' :: 'a' :: 'l' :: 's' :: 'e' :: text => some (.bool false, ⟨text, by simp; omega⟩)
  | '"' :: text =>
    (stringContent? text).map fun (units, rest) =>
      (.string ((characters? units).map String.ofList), ⟨rest.1, Nat.lt_succ_of_lt rest.2⟩)
  | '-' :: text => (magnitude? text).map fun rest => (.number, ⟨rest.1, Nat.lt_succ_of_lt rest.2⟩)
  | text => (magnitude? text).map fun rest => (.number, rest)

/-- The tokens of a text, if it is made of tokens and white space. -/
def tokens? : List Char → Option (List Token)
  | [] => some []
  | c :: text =>
    if isSpace c then tokens? text
    else
      match scan? (c :: text) with
      | some (token, rest) => (tokens? rest.1).map (token :: ·)
      | none => none
termination_by text => text.length
decreasing_by
  · simp
  · exact rest.2

end Thresholding.Json
