/-! # Searching left to an engine

Custom tags are found by patterns, whose syntax and search are an engine's.  All that
the registry asks of it is whether a text is a pattern, and what the groups of a
pattern capture in a text.

* `Matcher` — a pattern that is ready to be searched with;
* `Engine` — what makes patterns ready.
-/

namespace Stencil.Pattern

/-- What one match captured: the texts of its groups, group 0 first; none where a group
    took no part. -/
abbrev Captures := List (Option (List Char))

/-- The text of a group, empty if it took no part. -/
def Captures.text (captures : Captures) (index : Nat) : List Char :=
  captures[index]?.join.getD []

/-- A pattern that is ready to be searched with. -/
structure Matcher where
  /-- The names of the groups, group 0 first. -/
  groups : List (Option (List Char))
  /-- Whether the pattern matches somewhere in a text. -/
  isMatch : List Char → Bool
  /-- What all matches in a text captured, from left to right. -/
  captures : List Char → List Captures
  captures_eq_nil_iff : ∀ text, captures text = [] ↔ isMatch text = false

/-- What makes patterns ready, or says why a text is no pattern. -/
class Engine where
  compile : List Char → Except (List Char) Matcher

end Stencil.Pattern
