import Stencil.Decimal.Shortest
import Stencil.Settings.Basic
import Stencil.Toml.Reader

/-! # Settings in layers

Settings are read from several documents.  A later document wins where it says
something.  Values are converted: numbers and words to switches, and everything
that is not compound to text.

* `Layer.ofText?` — what one document says;
* `valueOf?` — what all documents say about a setting;
* `Settings.ofLayers?` — the settings, normalized.
-/

namespace Stencil.Settings

open Stencil.Toml (isBare)

/-- What a document says, by the names of its entries. -/
abbrev Layer := List (List Char × Toml.Value)

/-! ## Reading a document -/

/-- Whether a text is the number of an item, with blanks around it. -/
def isIndex (text : List Char) : Bool :=
  let inner := ((text.dropWhile (· = ' ')).reverse.dropWhile (· = ' ')).reverse
  let digits := (['-'].isPrefixOf? inner).getD inner
  !digits.isEmpty && digits.all Char.isDigit

/-- Whether a text leads from a value into it: dots with names, and numbers in
    brackets. -/
def leadsInside (text : List Char) : Bool :=
  let isDot (c : Char) : Bool := c == '.' || c == '['
  match text with
  | '.' :: rest =>
    let name := rest.takeWhile isBare
    !name.isEmpty && (rest.length = name.length || leadsInside (rest.drop name.length))
  | '[' :: rest =>
    let index := rest.takeWhile (· ≠ ']')
    isIndex index && index.length < rest.length &&
      (rest.length = index.length + 1 || (rest.drop (index.length + 1)).head?.any isDot &&
        leadsInside (rest.drop (index.length + 1)))
  | _ => false
termination_by text.length
decreasing_by
  all_goals
    simp only [List.length_drop, List.length_cons]
    omega

/-- The setting an entry is about.  A name may lead into the setting, which makes
    it compound. -/
def addressed (key : List Char) (value : Toml.Value) : List Char × Toml.Value :=
  let name := key.takeWhile isBare
  if leadsInside (key.drop name.length) then (name, .array []) else (key, value)

/-- What a document says; a byte order mark in front of it is passed over. -/
def Layer.ofText? (text : List Char) : Option Layer :=
  let text := (['\uFEFF'].isPrefixOf? text).getD text
  (Toml.read? text).map fun entries => entries.map fun (key, value) => addressed key value

/-! ## Conversions -/

/-- The value as a switch. -/
def switch? : Toml.Value → Option Bool
  | .boolean value => some value
  | .integer value => some (value ≠ 0)
  | .float value => some (value != 0.0)
  | .string text | .moment text =>
    let word := text.map Char.toLower
    if ["1", "true", "on", "yes"].any (·.toList = word) then some true
    else if ["0", "false", "off", "no"].any (·.toList = word) then some false
    else none
  | _ => none

/-- The value as a text. -/
def text? : Toml.Value → Option (List Char)
  | .string text | .moment text => some text
  | .boolean value => some (if value then "true".toList else "false".toList)
  | .integer value =>
    some (if value < 0 then '-' :: Text.decimal value.natAbs else Text.decimal value.natAbs)
  | .float value => some (Decimal.floatText value)
  | _ => none

/-! ## Putting layers together -/

/-- What the last of the layers that mention a setting says about it. -/
def valueOf? (layers : List Layer) (name : String) : Option Toml.Value :=
  layers.reverse.findSome? (·.lookup name.toList)

/-- The settings that layers add up to, the later ones winning. -/
def ofLayers? (layers : List Layer) : Option Settings := do
  let text (name : String) (default : List Char) : Option (List Char) :=
    match valueOf? layers name with
    | some value => text? value
    | none => some default
  let switch (name : String) : Option Bool :=
    match valueOf? layers name with
    | some value => switch? value
    | none => some false
  let defaults : Settings := {}
  let settings : Settings := {
    templateDir := ← text "template_dir" defaults.templateDir
    cacheDir := ← text "cache_dir" defaults.cacheDir
    extension := ← text "extension" defaults.extension
    debug := ← switch "debug"
    tagsIgnoreCase := ← switch "tags_icase"
    allowRawCode := ← switch "allow_php"
    removeComments := ← switch "remove_comments"
    autoEscape := ← switch "auto_escape"
    charset := ← text "charset" defaults.charset }
  return settings.normalized

/-- The settings that documents add up to, the later ones winning. -/
def ofTexts? (texts : List (List Char)) : Option Settings := do
  ofLayers? (← texts.mapM Layer.ofText?)

end Stencil.Settings
