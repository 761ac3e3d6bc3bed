import Stencil.Diagnostic.Excerpt
import Stencil.Diagnostic.Window
import Stencil.Source.Span
import Stencil.Text.Search

/-! # Rendering diagnostics

A diagnostic shows a message, the place it is about, the lines of the source
around it with the place marked, and notes.

* `Diagnostic` — what is shown;
* `Diagnostic.rows` — the picture;
* `Diagnostic.renderPlain` / `renderStyled` — the text without or with styles.
-/

namespace Stencil

open Stencil.Source (Span)

/-- A message about a place in a source. -/
structure Diagnostic where
  source : List Char
  path : List Char
  code : List Char
  message : List Char
  span : Span
  /-- What is written beside the marked place. -/
  label : List Char
  notes : List (List Char) := []
  deriving DecidableEq, Repr

namespace Diagnostic

open Stencil.Text (byteLength decimal isBlank splitOn takeBytes visible width)

/-! ## Parts -/

/-- The columns of a terminal. -/
def terminalWidth : Nat := 140

/-- The first byte of the span, within the source. -/
def start (diagnostic : Diagnostic) : Nat :=
  min diagnostic.span.first (byteLength diagnostic.source)

/-- The byte after the span, within the source. -/
def stop (diagnostic : Diagnostic) : Nat :=
  min diagnostic.span.stop (byteLength diagnostic.source)

/-- The columns that line numbers take: those of the number of lines up to the end
    of the span. -/
def numberWidth (diagnostic : Diagnostic) : Nat :=
  let shown := takeBytes diagnostic.stop diagnostic.source
  (decimal (max 1 (linesFrom 1 0 shown).length)).length

/-- A text that begins in a column of its own; its other lines are indented so
    that they begin there, too. -/
def hanging (start : Row) (indentation : Nat) (style : Style) (text : List Char) : List Row :=
  match splitOn '\n' text with
  | [] => [start]
  | first :: others =>
    (start ++ cells style first) ::
      others.map fun line => cells .normal (List.replicate indentation ' ') ++ cells style line

/-- The rows of the message. -/
def messageRows (diagnostic : Diagnostic) : List Row :=
  let level := "error[".toList ++ diagnostic.code ++ "]".toList
  hanging (cells .fault level ++ cells .strong ": ".toList) (byteLength level + 2) .strong
    (visible diagnostic.message)

/-- A row with nothing but the bar beside the source. -/
def barRow (numberWidth : Nat) : Row := Row.put (numberWidth + 1) .gutter ['|'] []

/-- The row that names the place. -/
def placeRow (diagnostic : Diagnostic) (numberWidth : Nat) (place : Place) : Row :=
  cells .normal (List.replicate numberWidth ' ') ++ cells .gutter "--> ".toList ++
    cells .normal
      (diagnostic.path ++ ':' :: decimal place.line ++ ':' :: decimal (place.character + 1))

/-- The rows of a note. -/
def noteRows (numberWidth : Nat) (note : List Char) : List Row :=
  let start :=
    Row.put (numberWidth + 1) .gutter "= ".toList [] ++
      cells .strong "note".toList ++ cells .normal ": ".toList
  hanging start start.length .normal note

/-! ## Source lines -/

/-- Where the parts of a line are drawn. -/
structure Columns where
  /-- How many columns line numbers take. -/
  numberWidth : Nat
  /-- The column of the bar that joins the start and the stop of a span. -/
  joint : Nat
  /-- The column of the source. -/
  code : Nat
  deriving DecidableEq, Repr

/-- The columns for an excerpt: spans over several lines need room for the bar. -/
def columnsOf (numberWidth : Nat) (marked : List MarkedLine) : Columns :=
  let joint := numberWidth + 3
  ⟨numberWidth, joint, if marked.length ≤ 1 then joint else joint + 2⟩

/-- Adds a line number and the bar beside the source. -/
def numbered (columns : Columns) (number : Nat) (row : Row) : Row :=
  let digits := decimal number
  (row.put (columns.numberWidth - digits.length) .gutter digits).put (columns.numberWidth + 1)
    .gutter ['|']

/-- Whether the mark opens a span in front of everything on its line. -/
def opensInFront (text : List Char) : Mark → Bool
  | .opening column => (text.take column).all isBlank
  | _ => false

/-- The row below a line that points at the marked columns.  The label follows
    where the span stops. -/
def markRow (columns : Columns) (moved : Nat) (label : List Char) (mark : Mark) : Row :=
  let (start, stop) := mark.columns
  let at' (column : Nat) : Nat := columns.code + column - moved
  let bar := barRow columns.numberWidth
  let carets (row : Row) : Row :=
    (List.range' start (stop - start)).foldl
      (fun row column => row.put (at' column) .fault ['^']) row
  let line (row : Row) : Row :=
    row.put (columns.joint + 1) .fault (List.replicate (at' start - (columns.joint + 1)) '_')
  let labelled (row : Row) : Row :=
    let gap := if stop = 0 then 2 else 1
    row.put (columns.code + (stop + gap - moved)) .fault label
  match mark with
  | .whole .. => carets (labelled bar)
  | .opening _ => (carets ((line bar).put columns.joint .fault [' '])).put (at' start) .fault ['^']
  | .passing => bar
  | .closing _ =>
    (carets (labelled ((line bar).put columns.joint .fault ['|']))).put (at' start) .fault ['^']

/-- Leaves out the middle of a mark that is far longer than the room for it. -/
def shortenMark (room : Nat) (mark : Mark) (row : Row) : Row :=
  match mark with
  | .whole start stop =>
    if room * 2 < stop - start && 10 < stop - start then
      let kept := max (room / 3) 5
      row.leaveOut (start + kept) (stop - kept)
    else row
  | _ => row

/-- The rows of a marked line. -/
def lineRows (columns : Columns) (window : Window) (label : List Char) (marked : MarkedLine) :
    List Row :=
  let text := visible marked.line.text
  let (row, moved) := window.draw columns.code text
  let row := numbered columns marked.line.number row
  let shorten := shortenMark window.room marked.mark
  if opensInFront text marked.mark then [row.put columns.joint .fault ['/']]
  else
    match marked.mark with
    | .passing => [row.put columns.joint .fault ['|']]
    | .closing _ =>
      [row.put columns.joint .fault ['|'], markRow columns moved label marked.mark]
    | .whole .. => [shorten row, shorten (markRow columns moved label marked.mark)]
    | .opening _ => [row, markRow columns moved label marked.mark]

/-- The rows between two marked lines: nothing, the one line between them, or a
    sign that lines are left out. -/
def gapRows (columns : Columns) (window : Window) (lines : List SourceLine) (first next : Nat) :
    List Row :=
  if next - first < 2 then []
  else
    let row :=
      if next - first = 2 then
        match lines.find? (·.number = first + 1) with
        | some line =>
          numbered columns line.number (window.draw columns.code (visible line.text)).1
        | none => []
      else Row.put 0 .gutter ellipsis []
    [row.put columns.joint .fault ['|']]

/-- The rows of an excerpt. -/
def excerptRows (columns : Columns) (window : Window) (label : List Char)
    (lines : List SourceLine) : List MarkedLine → List Row
  | [] => []
  | [last] => lineRows columns window label last
  | marked :: next :: others =>
    lineRows columns window label marked ++
      gapRows columns window lines marked.line.number next.line.number ++
      excerptRows columns window label lines (next :: others)

/-- The columns of the blanks in front of a line; a line of blanks has none. -/
def indentation? (text : List Char) : Option Nat :=
  if text.all isBlank then none
  else some ((text.takeWhile isBlank).foldl (fun sum c => sum + if c = '\t' then 4 else 1) 0)

/-- The extent of an excerpt. -/
def extentOf (label : List Char) (marked : List MarkedLine) : Extent :=
  let indentations := marked.filterMap fun one => indentation? one.line.text
  let starts := marked.map fun one => min one.mark.columns.1 one.mark.columns.2
  let stops := marked.map fun one => max one.mark.columns.1 one.mark.columns.2
  let labelStops := marked.map fun one =>
    match one.mark with
    | .whole _ stop | .closing stop => stop + width label + 1
    | .opening column => column + 1
    | .passing => 0
  { indentation := indentations.min?.getD 0
    markStart := starts.min?.getD 0
    markStop := stops.foldl max 0
    labelStop := labelStops.foldl max 0
    lineLength := (marked.map fun one => width one.line.text).foldl max 0 }

/-! ## The whole picture -/

/-- The rows of a diagnostic. -/
def rows (diagnostic : Diagnostic) : List Row :=
  let numberWidth := diagnostic.numberWidth
  let lines := sourceLines diagnostic.source
  let (place, marked) := excerpt lines diagnostic.start diagnostic.stop
  let columns := columnsOf numberWidth marked
  let window := windowOf (extentOf diagnostic.label marked) (terminalWidth - columns.code)
  let notes := diagnostic.notes.flatMap (noteRows numberWidth)
  diagnostic.messageRows ++ [diagnostic.placeRow numberWidth place, barRow numberWidth] ++
    excerptRows columns window diagnostic.label lines marked ++
    if notes.isEmpty then [] else barRow numberWidth :: notes

/-- The text of a diagnostic for anything but a terminal. -/
def renderPlain (diagnostic : Diagnostic) : List Char := plain diagnostic.rows

/-- The text of a diagnostic for a terminal. -/
def renderStyled (diagnostic : Diagnostic) : List Char := styled diagnostic.rows

end Diagnostic

end Stencil
