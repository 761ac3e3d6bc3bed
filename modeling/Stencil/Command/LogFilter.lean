import Stencil.Log
import Stencil.Text.Blank
import Stencil.Text.Search
import Stencil.Text.WordCharacter

/-! # Log filters

Which events are shown is decided by directives: a level, or a level for the
components whose names begin in some way.  The most specific directive counts.

* `LogFilter.ofText?` — a filter written as text;
* `LogFilter.ofVerbosity` — the filter when there is no text;
* `LogFilter.shows` — whether an event is shown.
-/

namespace Stencil

open Stencil.Text (isWord splitFirst? splitOn trim)

/-- The rank up to which events of some components are shown. -/
structure LogDirective where
  /-- How the names of the components begin. -/
  target : List Char
  rank : Nat
  deriving DecidableEq, Repr

/-- The directives of a filter.  Of two for the same components the later counts. -/
structure LogFilter where
  directives : List LogDirective
  deriving DecidableEq, Repr

/-- The rank that a word or a digit stands for. -/
def rank? (text : List Char) : Option Nat :=
  let word := text.map Char.toLower
  [("off", 0), ("error", 1), ("warn", 2), ("info", 3), ("debug", 4), ("trace", 5), ("0", 0),
   ("1", 1), ("2", 2), ("3", 3), ("4", 4), ("5", 5)].findSome? fun (name, rank) =>
    if name.toList = word then some rank else none

/-- Reads a directive: a rank, components, or components with a rank. -/
def LogDirective.ofText? (text : List Char) : Option LogDirective := do
  let first ← text.head?
  guard (isWord first || first = '-' || first = ':')
  match splitFirst? ['='] text with
  | some (target, []) => return ⟨target, 5⟩
  | some (target, rank) => return ⟨target, ← rank? rank⟩
  | none =>
    match rank? text with
    | some rank => return ⟨[], rank⟩
    | none => return ⟨text, 5⟩

namespace LogFilter

/-- Reads a filter.  An empty one shows errors. -/
def ofText? (text : List Char) : Option LogFilter := do
  let pieces := ((splitOn ',' text).map trim).filter (!·.isEmpty)
  if pieces.isEmpty then return ⟨[⟨[], 1⟩]⟩
  return ⟨← pieces.mapM LogDirective.ofText?⟩

/-- The filter for options that ask for fewer or for more events. -/
def ofVerbosity (quiet : Bool) (verbose : Nat) : LogFilter :=
  ⟨[⟨[], if quiet then 1 else min (2 + verbose) 5⟩]⟩

/-- The rank up to which events of a component are shown. -/
def rankFor (filter : LogFilter) (component : List Char) : Nat :=
  let better (best : Option LogDirective) (directive : LogDirective) : Option LogDirective :=
    if !directive.target.isPrefixOf component then best
    else
      match best with
      -- Of two directives that are equally specific the later one counts.
      | some other => if directive.target.length < other.target.length then best else some directive
      | none => some directive
  ((filter.directives.foldl better none).map LogDirective.rank).getD 0

/-- Whether an event is shown. -/
def shows (filter : LogFilter) (event : Event) : Bool :=
  event.level.rank ≤ filter.rankFor event.component.name

end LogFilter

end Stencil
