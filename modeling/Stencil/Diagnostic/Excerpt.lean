import Stencil.Text.Blank
import Stencil.Text.Utf8
import Stencil.Text.Width

/-! # Excerpts of a source

An excerpt holds the lines of a source that a span touches, each with the mark
that the span leaves on it.

* `SourceLine` / `sourceLines` — the lines with the bytes they cover;
* `place` — the line and columns of a byte;
* `Mark` — what a span leaves on a line;
* `excerpt` — the lines to show.
-/

namespace Stencil.Diagnostic

open Stencil.Text (byteLength charWidth takeBytes trim width)

/-! ## Lines -/

/-- A line of a source, without its line end. -/
structure SourceLine where
  /-- Counted from one. -/
  number : Nat
  text : List Char
  /-- The first byte of the line. -/
  start : Nat
  /-- The first byte after the line and its line end. -/
  stop : Nat
  deriving DecidableEq, Repr, Inhabited

/-- The byte after the text of a line. -/
def SourceLine.textStop (line : SourceLine) : Nat := line.start + byteLength line.text

/-- The lines from a byte on.  A line end at the very end starts no further line. -/
def linesFrom (number start : Nat) (text : List Char) : List SourceLine :=
  let line := text.takeWhile (· ≠ '\n')
  match _after : text.dropWhile (· ≠ '\n') with
  | [] => if line.isEmpty then [] else [⟨number, line, start, start + byteLength line⟩]
  | _ :: rest =>
    let stop := start + byteLength line + 1
    let bare := if line.getLast? = some '\r' then line.dropLast else line
    ⟨number, bare, start, stop⟩ :: linesFrom (number + 1) stop rest
termination_by text.length
decreasing_by
  have := (List.dropWhile_sublist (l := text) (· ≠ '\n')).length_le
  rw [_after] at this
  simp only [List.length_cons] at this
  omega

/-- The lines of a source; an empty one has one line. -/
def sourceLines (source : List Char) : List SourceLine :=
  match linesFrom 1 0 source with
  | [] => [⟨1, [], 0, 0⟩]
  | lines => lines

/-! ## Places -/

/-- Where a byte stands. -/
structure Place where
  line : Nat
  /-- Characters before it on the line. -/
  character : Nat
  /-- Columns before it on the line. -/
  column : Nat
  deriving DecidableEq, Repr

/-- The line that holds a byte; the last line if none does. -/
def lineOf (lines : List SourceLine) (byte : Nat) : SourceLine :=
  (lines.find? fun line => line.start ≤ byte && byte < line.stop).getD (lines.getLastD default)

/-- The place of a byte. -/
def place (lines : List SourceLine) (byte : Nat) : Place :=
  let line := lineOf lines byte
  let before := takeBytes (byte - line.start) line.text
  { line := line.number, character := before.length, column := width before }

/-- The place at which a span starts.  Within a line end it is one further. -/
def startPlace (lines : List SourceLine) (byte : Nat) : Place :=
  let at' := place lines byte
  if (lineOf lines byte).textStop < byte then { at' with character := at'.character + 1 } else at'

/-- The place at which a span that started on another line stops.  Within a line
    end it is one further. -/
def stopPlace (lines : List SourceLine) (byte : Nat) : Place :=
  let at' := place lines byte
  if (lineOf lines byte).textStop < byte then
    { at' with character := at'.character + 1, column := at'.column + 1 }
  else at'

/-! ## Marks -/

/-- What a span leaves on a line. -/
inductive Mark where
  /-- All of the span, between two columns. -/
  | whole (start stop : Nat)
  /-- The start of the span. -/
  | opening (column : Nat)
  /-- Neither start nor stop. -/
  | passing
  /-- The stop of the span. -/
  | closing (column : Nat)
  deriving DecidableEq, Repr

/-- The columns between which a mark is drawn. -/
def Mark.columns : Mark → Nat × Nat
  | .whole start stop => (start, stop)
  | .opening column => (column, column + 1)
  | .passing => (0, 0)
  | .closing column => (column - 1, column)

/-- A line with its mark. -/
structure MarkedLine where
  line : SourceLine
  mark : Mark
  deriving DecidableEq, Repr

/-- Whether a line says more than a blank, a comment or a single bracket. -/
def isSubstantial (text : List Char) : Bool :=
  let text := trim text
  let starts (mark : String) : Bool := mark.toList.isPrefixOf text
  !(starts "//" && !(starts "///" || starts "//!")) &&
    !(["", "\x7b", "\x7d", "(", ")", "[", "]"].any (·.toList = text))

/-- The lines between the first and the last line of a span that are shown: up to
    three after the first one, without insubstantial lines at their end, and the
    one before the last if it is substantial. -/
def passingLines (lines : List SourceLine) (first last : Nat) : List Nat :=
  let substantial (number : Nat) : Bool :=
    (lines.find? (·.number = number)).any fun line => isSubstantial line.text
  let middle := min (first + 4) last
  let reached :=
    ((List.range' first (middle - first)).reverse.find? substantial).map (· + 1) |>.getD first
  let early := List.range' (first + 1) (reached - (first + 1))
  if middle < last - 1 && substantial (last - 1) then early ++ [last - 1] else early

/-- The lines that a span from byte `start` to byte `stop` touches, as far as they
    are shown. -/
def excerpt (lines : List SourceLine) (start stop : Nat) : Place × List MarkedLine :=
  let first := startPlace lines start
  let last := if start = stop then first else place lines stop
  let marked (number : Nat) (mark : Mark) : List MarkedLine :=
    (lines.filter (·.number = number)).map fun line => ⟨line, mark⟩
  if first.line = last.line then
    let stopColumn := if first.column = last.column then first.column + 1 else last.column
    (first, marked first.line (.whole first.column stopColumn))
  else
    let last := stopPlace lines stop
    (first,
      marked first.line (.opening first.column) ++
        (passingLines lines first.line last.line).flatMap (marked · .passing) ++
        marked last.line (.closing last.column))

end Stencil.Diagnostic
