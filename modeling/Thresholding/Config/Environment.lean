import Thresholding.Config.Basic
import Thresholding.Text.LowerCase

/-!
# Thresholding.Config.Environment

Taking the configuration from **environment variables**.

Each field has a variable of its own. A variable that is unset, or set to a value that is
not recognised, leaves the default. The two values fold letter case differently: the mode
folds ASCII letters, the switch all of them.
-/

namespace Thresholding.Config

/-- The variable that selects the prefix match mode. -/
def prefixVariable : String := "QTHRESH_DTYPE_PREFIX"

/-- The variable that allows a bit width of zero. -/
def zeroWidthVariable : String := "QTHRESH_ALLOW_ZERO_WIDTH"

/-- The mode that a value names, if it is one. -/
def mode? (value : String) : Option PrefixMatch := (PrefixMatch.ofName value).toOption

/-- The value of a switch: `1` or `true`, `0` or `false`, letters in either case. -/
def switch? (value : String) : Option Bool :=
  match String.ofList (lowerCase value.toList) with
  | "1" | "true" => some true
  | "0" | "false" => some false
  | _ => none

/-- The configuration that an environment asks for, given as the look-up of variables. -/
def ofEnvironment (lookup : String → Option String) : Config where
  prefixMatch := ((lookup prefixVariable).bind mode?).getD .substring
  allowZeroWidth := ((lookup zeroWidthVariable).bind switch?).getD false

end Thresholding.Config
