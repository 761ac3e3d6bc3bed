import Stencil.Log
import Stencil.Pattern.Matcher
import Stencil.Template.Error
import Stencil.Text.Printable

/-! # Custom tags

Tags added by the program that uses the library.  A custom tag is a pattern and
a callback that renders its matches.  The registry keeps tags in the order of
their names' first registration.  Which texts are patterns, and what they match,
is up to the engine.

* `TagMatches` — all matches of a pattern in a text, grouped by capture group;
* `Registry.register` — adds a tag, or replaces the one of the same name;
* `Registry.matching` — the tags whose patterns match a text;
* `Registry.invoke?` — the callback of a tag applied to matches.
-/

namespace Stencil.Tag

open Stencil.Pattern (Captures Engine Matcher)
open Stencil.Template (TemplateError)
open Stencil.Text (quoteVisibly)

/-- What one capture group matched, once for every match of the pattern; empty
    where the group took no part. -/
structure CaptureGroup where
  name : Option (List Char)
  values : List (List Char)
  deriving DecidableEq, Repr

/-- The capture groups of all matches in a text, group 0 first. -/
structure TagMatches where
  groups : List CaptureGroup
  deriving DecidableEq, Repr

namespace TagMatches

/-- The matches of a pattern in a text, if there are any. -/
def collect? (pattern : Matcher) (text : List Char) : Option TagMatches :=
  let found := pattern.captures text
  if found.isEmpty then none
  else
    some ⟨pattern.groups.zipIdx.map fun (name, index) =>
      ⟨name, found.map fun captures => captures.text index⟩⟩

/-- The values of a group by its number. -/
def group? (tagMatches : TagMatches) (index : Nat) : Option (List (List Char)) :=
  (tagMatches.groups[index]?).map CaptureGroup.values

/-- The values of the first group with a name. -/
def named? (tagMatches : TagMatches) (name : List Char) : Option (List (List Char)) :=
  (tagMatches.groups.find? (·.name == some name)).map CaptureGroup.values

/-- The first value of a group. -/
def first? (tagMatches : TagMatches) (index : Nat) : Option (List Char) :=
  (tagMatches.group? index).bind List.head?

end TagMatches

/-- A tag of the program that uses the library. -/
structure CustomTag where
  name : List Char
  pattern : Matcher
  callback : TagMatches → List Char

/-- The custom tags, in the order in which they are tried. -/
structure Registry where
  tags : List CustomTag

namespace Registry

/-- The registry without tags. -/
def empty : Registry := ⟨[]⟩

/-- The names of the tags in order. -/
def names (registry : Registry) : List (List Char) := registry.tags.map CustomTag.name

/-- Puts a tag in the place of the one with its name, or at the end. -/
def insert (registry : Registry) (tag : CustomTag) : Registry :=
  if registry.names.contains tag.name then
    ⟨registry.tags.map fun other => if other.name = tag.name then tag else other⟩
  else ⟨registry.tags ++ [tag]⟩

/-- Registers a tag under a name.  Replacing an earlier tag is reported. -/
def register [Engine] (registry : Registry) (name pattern : List Char)
    (callback : TagMatches → List Char) : Except TemplateError (Registry × List Event) :=
  match Engine.compile pattern with
  | .error reason => .error (.invalidPattern name reason)
  | .ok pattern =>
    let replaced : List Event :=
      if registry.names.contains name then
        [⟨.debug, .registry, "replacing custom tag '".toList ++ name ++ ['\'']⟩]
      else []
    .ok (registry.insert ⟨name, pattern, callback⟩, replaced)

/-- The tags whose patterns match somewhere in a text, with their matches. -/
def matching (registry : Registry) (text : List Char) : List (List Char × TagMatches) :=
  registry.tags.filterMap fun tag =>
    (TagMatches.collect? tag.pattern text).map fun found => (tag.name, found)

/-- Applies the callback of the tag with a name. -/
def invoke? (registry : Registry) (name : List Char) (tagMatches : TagMatches) :
    Option (List Char) :=
  (registry.tags.find? (·.name == name)).map fun tag => tag.callback tagMatches

/-- The registry as a line of text, with the names of its tags. -/
def describe (registry : Registry) : List Char :=
  "TagRegistry \x7b tags: [".toList ++
    List.intercalate ", ".toList (registry.names.map quoteVisibly) ++ "] \x7d".toList

end Registry

end Stencil.Tag
