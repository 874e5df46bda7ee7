/-!
# Thresholding.Config.Basic

The **configuration** of the typing rule: how strictly the descriptor of an output
domain is read.
-/

namespace Thresholding

/-- Where the keyword of a descriptor is looked for. -/
inductive PrefixMatch
  /-- Anywhere in the text. -/
  | substring
  /-- At the start of the text. -/
  | anchored
  deriving Repr, DecidableEq

namespace PrefixMatch

/-- The written form of a mode. -/
def text : PrefixMatch → String
  | substring => "substring"
  | anchored => "anchored"

-- Occurrences are decided as in the core library, whatever other procedures there are.
attribute [local instance (high)] List.instDecidableIsInfixOfDecidableEq

/-- Whether a keyword stands in a text where the mode looks for it. -/
def finds (mode : PrefixMatch) (keyword text : List Char) : Bool :=
  match mode with
  | substring => decide (keyword <:+: text)
  | anchored => decide (keyword <+: text)

/-- The mode with the given name, ASCII letters in either case. A failure carries the
name as it was compared. -/
def ofName (name : String) : Except String PrefixMatch :=
  match String.ofList (name.toList.map Char.toLower) with
  | "substring" => .ok substring
  | "anchored" => .ok anchored
  | other => .error other

/-- The message for a name that is no mode, given as it was compared. -/
def unknownNameMessage (name : String) : String := s!"unknown prefix match mode `{name}`"

end PrefixMatch

/-- How strictly descriptors are read. -/
structure Config where
  /-- Where the keyword is looked for. -/
  prefixMatch : PrefixMatch := .substring
  /-- Whether a bit width of zero is legal. -/
  allowZeroWidth : Bool := false
  deriving Repr, DecidableEq

instance : Inhabited Config := ⟨{}⟩

end Thresholding
