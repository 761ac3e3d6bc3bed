import Stencil.Digest.NameHash
import Stencil.Pattern.Matcher
import Stencil.Pattern.Reader
import Stencil.Pattern.Search
import Stencil.Store.Basic
import Stencil.Text.Utf8

/-! # What commands are run with

The engine of custom tags and the order of directories are no matter of the program;
its results hold for all of them.  Commands are run with the patterns of
`Stencil.Pattern`, and with directories that list their names by their hashes.

* `Pattern.matcher` — a pattern that was read, ready to be searched with;
* `patternEngine` / `hashOrder` — what commands are run with.
-/

namespace Stencil

open Stencil.Text (bytes)

/-- A pattern that is searched with as it was read. -/
def Pattern.matcher (pattern : Pattern) : Pattern.Matcher where
  groups := pattern.groups
  isMatch text := (pattern.find? text 0).isSome
  captures text := (pattern.findAll text).map fun found =>
    (List.range pattern.groups.length).map (Pattern.groupText? text found.bounds)
  captures_eq_nil_iff text := by
    rw [List.map_eq_nil_iff, Pattern.findAll_eq_nil_iff, Option.isSome_eq_false_iff,
      Option.isNone_iff_eq_none]

/-- The engine that reads and searches patterns itself.  It has no words for its reasons. -/
instance patternEngine : Pattern.Engine where
  compile text :=
    match Pattern.read text with
    | .ok pattern => .ok pattern.matcher
    | .error _ => .error []

/-- Whether a name is listed in front of another one, by their hashes. -/
def listedBefore (one other : List Char) : Bool :=
  let hash := Digest.nameHash (bytes one)
  let otherHash := Digest.nameHash (bytes other)
  hash.1 < otherHash.1 || (hash.1 == otherHash.1 && hash.2 ≤ otherHash.2)

/-- Names in the order of their hashes. -/
instance hashOrder : ListingOrder where
  arrange names := names.mergeSort listedBefore
  arrange_perm names := List.mergeSort_perm names _

end Stencil
