import Stencil.Program.Json
import Stencil.Settings.Basic

/-! # Settings from records

Settings are read from an object by the names of the fields, or from a list in
their order.  Fields that are missing keep their defaults; fields that are
unknown are passed over.
-/

namespace Stencil.Settings

open Stencil.Json (field? string?)

/-- The truth value of a JSON value. -/
def bool? : Json → Option Bool
  | .bool value => some value
  | _ => none

/-- Whether a value can hold settings. -/
def canHold : Json → Bool
  | .object _ => true
  | .array items => items.length ≤ 9
  | _ => false

/-- The settings a JSON value stands for. -/
def ofJson? (json : Json) : Option Settings := do
  guard (canHold json)
  let text (index : Nat) (name : String) (default : List Char) : Option (List Char) :=
    match json.field? index name with
    | some value => value.string?
    | none => some default
  let switch (index : Nat) (name : String) : Option Bool :=
    match json.field? index name with
    | some value => bool? value
    | none => some false
  let defaults : Settings := {}
  return {
    templateDir := ← text 0 "template_dir" defaults.templateDir
    cacheDir := ← text 1 "cache_dir" defaults.cacheDir
    extension := ← text 2 "extension" defaults.extension
    debug := ← switch 3 "debug"
    tagsIgnoreCase := ← switch 4 "tags_icase"
    allowRawCode := ← switch 5 "allow_php"
    removeComments := ← switch 6 "remove_comments"
    autoEscape := ← switch 7 "auto_escape"
    charset := ← text 8 "charset" defaults.charset }

end Stencil.Settings
