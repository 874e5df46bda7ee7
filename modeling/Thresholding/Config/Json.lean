import Thresholding.Config.Basic
import Thresholding.Json.Basic

/-!
# Thresholding.Config.Json

The **JSON form** of the configuration.

A configuration is written as an object with both its fields. It is read from an object
whose fields may stand in any order, be absent, and be accompanied by unknown ones, or from
an array of at most two elements, the fields in order. A field that is present must have a
value of its kind: null does not stand for the default.
-/

namespace Thresholding

namespace PrefixMatch

/-- The mode that a string value names, letter for letter. -/
def ofContent? : Option String → Option PrefixMatch
  | some "substring" => some substring
  | some "anchored" => some anchored
  | _ => none

/-- The mode that a JSON value stands for: its name, or an object with the name as its one
key and null as its value. -/
def ofJson? : Json → Option PrefixMatch
  | .string content => ofContent? content
  | .object [(key, .null)] => ofContent? key
  | _ => none

/-- The JSON text of a mode. -/
def json (mode : PrefixMatch) : String := "\"" ++ mode.text ++ "\""

end PrefixMatch

namespace Config

/-- The name of the field for the prefix match mode. -/
def prefixField : String := "prefix_match"

/-- The name of the field for the zero-width switch. -/
def zeroWidthField : String := "allow_zero_width"

/-- The switch that a JSON value stands for. -/
def switchOfJson? : Json → Option Bool
  | .bool value => some value
  | _ => none

/-- A field of an object: the default if it is absent, and a failure if it is repeated. -/
def field? {α : Type} (members : List (Option String × Json)) (name : String)
    (ofJson? : Json → Option α) (default : α) : Option α :=
  match members.filter (·.1 == some name) with
  | [] => some default
  | [(_, value)] => ofJson? value
  | _ => none

/-- The configuration that a JSON value stands for. Every key of an object has to be text,
that of an unknown field too. -/
def ofJson? : Json → Option Config
  | .object members => do
    if members.any (·.1.isNone) then none
    else
      return {
        prefixMatch := ← field? members prefixField PrefixMatch.ofJson? .substring
        allowZeroWidth := ← field? members zeroWidthField switchOfJson? false }
  | .array [] => some default
  | .array [mode] => return { prefixMatch := ← PrefixMatch.ofJson? mode }
  | .array [mode, zeroWidth] => do
    return {
      prefixMatch := ← PrefixMatch.ofJson? mode
      allowZeroWidth := ← switchOfJson? zeroWidth }
  | _ => none

/-- The configuration that a JSON text stands for. -/
def read? (text : String) : Option Config := (Json.read? text).bind ofJson?

/-- The JSON text of a configuration. -/
def json (config : Config) : String :=
  "\x7b\"" ++ prefixField ++ "\":" ++ config.prefixMatch.json ++ ",\"" ++ zeroWidthField ++ "\":"
    ++ (if config.allowZeroWidth then "true" else "false") ++ "\x7d"

end Config

end Thresholding
