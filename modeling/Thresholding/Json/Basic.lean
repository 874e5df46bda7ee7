import Thresholding.Json.Token

/-!
# Thresholding.Json.Basic

**JSON values** and their reader.

Design points:

* An object is the list of its members in order, repeated keys included: what a repeated
  key means is for the consumer to say.
* The reader takes tokens one at a time and keeps the open arrays and objects on a stack,
  so values may nest to any depth and the reader is a fold.
-/

namespace Thresholding

/-- A JSON value. -/
inductive Json
  /-- The null literal. -/
  | null
  /-- A Boolean literal. -/
  | bool (value : Bool)
  /-- A number; which one is never asked. -/
  | number
  /-- A string, with its content unless the content is no text. -/
  | string (content : Option String)
  /-- An array. -/
  | array (items : List Json)
  /-- An object: its members in order. -/
  | object (members : List (Option String × Json))
  deriving Inhabited

namespace Json

/-! ### The reader's state -/

/-- A value that is open: the parts of it that are complete, latest first. -/
inductive Frame
  /-- An array. -/
  | array (items : List Json)
  /-- An object, and the key of the member whose value is being read. -/
  | object (members : List (Option String × Json)) (key : Option String)

/-- What the reader expects next, with the values that are open, innermost first. -/
inductive Reader
  /-- A value. -/
  | value (frames : List Frame)
  /-- The first element of an array, or its end. -/
  | firstItem (frames : List Frame)
  /-- The separator after an element of an array, or its end. -/
  | afterItem (items : List Json) (frames : List Frame)
  /-- The first key of an object, or its end. -/
  | firstKey (frames : List Frame)
  /-- A key of an object. -/
  | nextKey (members : List (Option String × Json)) (frames : List Frame)
  /-- The colon after a key. -/
  | colon (members : List (Option String × Json)) (key : Option String) (frames : List Frame)
  /-- The separator after a member of an object, or its end. -/
  | afterMember (members : List (Option String × Json)) (frames : List Frame)
  /-- Nothing: the outermost value is complete. -/
  | done (value : Json)

/-- A value is complete: it goes into the innermost open value. -/
def Reader.complete (value : Json) : List Frame → Reader
  | [] => done value
  | .array items :: frames => afterItem (value :: items) frames
  | .object members key :: frames => afterMember ((key, value) :: members) frames

/-- The first token of a value. -/
def Reader.start? (frames : List Frame) : Token → Option Reader
  | .null => some (complete .null frames)
  | .bool b => some (complete (.bool b) frames)
  | .number => some (complete .number frames)
  | .string content => some (complete (.string content) frames)
  | .openBracket => some (firstItem frames)
  | .openBrace => some (firstKey frames)
  | _ => none

/-- One token more, if it may stand where it stands. -/
def Reader.step? : Reader → Token → Option Reader
  | value frames, token => start? frames token
  | firstItem frames, .closeBracket => some (complete (.array []) frames)
  | firstItem frames, token => start? (.array [] :: frames) token
  | afterItem items frames, .closeBracket => some (complete (.array items.reverse) frames)
  | afterItem items frames, .comma => some (value (.array items :: frames))
  | firstKey frames, .closeBrace => some (complete (.object []) frames)
  | firstKey frames, .string content => some (colon [] content frames)
  | nextKey members frames, .string content => some (colon members content frames)
  | colon members key frames, .colon => some (value (.object members key :: frames))
  | afterMember members frames, .closeBrace => some (complete (.object members.reverse) frames)
  | afterMember members frames, .comma => some (nextKey members frames)
  | _, _ => none

/-! ### Reading -/

/-- The value that a list of tokens writes. -/
def ofTokens? (tokens : List Token) : Option Json :=
  match tokens.foldlM Reader.step? (.value []) with
  | some (.done value) => some value
  | _ => none

/-- The value that a text writes. -/
def read? (text : String) : Option Json := (tokens? text.toList).bind ofTokens?

end Json

end Thresholding
