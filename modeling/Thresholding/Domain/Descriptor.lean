import Thresholding.Config.Basic
import Thresholding.Domain.Basic
import Thresholding.Text.ByteSuffix

/-!
# Thresholding.Domain.Descriptor

Reading the **descriptor** of an integer domain, such as `INT8` or `UINT4`.

Design points:

* The keyword and the width are found independently. The keyword may, in the lenient
  mode, stand anywhere in the text; the width is always what follows as many *bytes* as
  the keyword has. A keyword further right is therefore recognised and then refused for
  its width, never accepted.
* `UINT` is looked for first, because it contains `INT`.
* The rules are tried in a fixed order and the first that fails is reported, with the
  descriptor as it was given.
-/

namespace Thresholding

/-- Why a text describes no integer domain. -/
inductive DescriptorError
  /-- Neither keyword was found. -/
  | unrecognizedPrefix (descriptor : String)
  /-- What follows the keyword's bytes is not one or two bytes long. -/
  | invalidWidthLength (descriptor suffix : String)
  /-- What follows the keyword's bytes is not made of digits. -/
  | nonNumericWidth (descriptor suffix : String)
  /-- The width exceeds the largest legal one. -/
  | widthTooLarge (descriptor : String) (width : Nat)
  /-- The width is zero and the configuration does not allow it. -/
  | zeroWidth (descriptor : String)
  deriving Repr, DecidableEq

/-- The message of a descriptor error. -/
def DescriptorError.message : DescriptorError → String
  | unrecognizedPrefix descriptor =>
    s!"unrecognized dtype `{descriptor}`: expected an INT or UINT prefix"
  | invalidWidthLength descriptor suffix =>
    s!"dtype `{descriptor}` has width `{suffix}`: expected 1 or 2 digits"
  | nonNumericWidth descriptor suffix =>
    s!"dtype `{descriptor}` has non-numeric width `{suffix}`"
  | widthTooLarge descriptor width =>
    s!"dtype `{descriptor}` has width {width}, maximum is 64"
  | zeroWidth descriptor =>
    s!"dtype `{descriptor}` has zero bit width"

namespace IntDomain

/-- The largest legal bit width. -/
def maxBitWidth : Nat := 64

/-- The signedness that the keyword of a text announces, if it has one. -/
def signedness? (mode : PrefixMatch) (text : List Char) : Option Bool :=
  if mode.finds (keyword false) text then some false
  else if mode.finds (keyword true) text then some true
  else none

/-- The number that a list of digits writes. -/
def numeralValue (digits : List Char) : Nat :=
  digits.foldl (fun value digit => 10 * value + (digit.toNat - '0'.toNat)) 0

/-- The domain that a text describes. -/
def parse (config : Config) (descriptor : String) : Except DescriptorError IntDomain :=
  match signedness? config.prefixMatch descriptor.toList with
  | none => .error (.unrecognizedPrefix descriptor)
  | some signed =>
    let suffix := ByteSuffix.drop (keyword signed).length descriptor.toList
    if suffix.byteLength = 0 ∨ 2 < suffix.byteLength then
      .error (.invalidWidthLength descriptor suffix.text)
    else if !suffix.isNumeral then
      .error (.nonNumericWidth descriptor suffix.text)
    else
      let width := numeralValue suffix.rest
      if maxBitWidth < width then .error (.widthTooLarge descriptor width)
      else if width = 0 ∧ !config.allowZeroWidth then .error (.zeroWidth descriptor)
      else .ok ⟨signed, width⟩

end IntDomain

end Thresholding
