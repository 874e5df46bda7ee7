/-!
# Thresholding.Text.ByteSuffix

The **suffix of a text after a byte offset**, lengths being those of the UTF-8 form.

The offset may fall inside a character. What is left of that character is a number of
stray bytes, none of which starts a character, and the suffix is those bytes followed by
whole characters. No byte is ever inspected, so the bytes themselves are not kept.
-/

namespace Thresholding

/-- What follows a byte offset in a text. -/
structure ByteSuffix where
  /-- The bytes left of a character that the offset divides. -/
  stray : Nat
  /-- The characters after them. -/
  rest : List Char
  deriving Repr, DecidableEq

namespace ByteSuffix

/-- The suffix after `offset` bytes; it is empty if the text ends before. -/
def drop : Nat → List Char → ByteSuffix
  | 0, text => ⟨0, text⟩
  | _ + 1, [] => ⟨0, []⟩
  | offset + 1, c :: text =>
    if c.utf8Size ≤ offset + 1 then drop (offset + 1 - c.utf8Size) text
    else ⟨c.utf8Size - (offset + 1), text⟩

@[simp] theorem drop_zero (text : List Char) : drop 0 text = ⟨0, text⟩ := by
  cases text <;> rfl

/-- The number of bytes in a text. -/
def utf8Length : List Char → Nat
  | [] => 0
  | c :: text => c.utf8Size + utf8Length text

/-- The number of bytes in a suffix. -/
def byteLength (s : ByteSuffix) : Nat := s.stray + utf8Length s.rest

/-- The text that shows a suffix: a replacement character for each stray byte. -/
def text (s : ByteSuffix) : String :=
  String.ofList (List.replicate s.stray '\uFFFD' ++ s.rest)

/-- Whether a suffix holds ASCII digits and nothing else. -/
def isNumeral (s : ByteSuffix) : Bool := s.stray == 0 && s.rest.all Char.isDigit

end ByteSuffix

end Thresholding
