import Stencil.Diagnostic.Picture
import Stencil.Text.Width

/-! # The visible part of long lines

Lines that do not fit are cut on one side or both, so that the marked part and
its label can be seen.

* `Window` — the columns that are shown;
* `windowOf` — the window for an excerpt;
* `Window.draw` — a line as it is seen through the window.
-/

namespace Stencil.Diagnostic

open Stencil.Text (charWidth width)

/-- The columns of a source that are shown. -/
structure Window where
  left : Nat
  right : Nat
  /-- How many columns there is room for. -/
  room : Nat
  deriving DecidableEq, Repr

/-- What decides which part of an excerpt is shown. -/
structure Extent where
  /-- The indentation that all lines share. -/
  indentation : Nat
  /-- The first and the last column of the marks. -/
  markStart : Nat
  markStop : Nat
  /-- The last column of the label. -/
  labelStop : Nat
  /-- The length of the longest line. -/
  lineLength : Nat
  deriving DecidableEq, Repr

/-- The room kept free around marks for the signs of a cut. -/
def cutRoom : Nat := 6

/-- The window for an excerpt: all of it, less deep indentation; if that does not
    fit, the part from the indentation on, the part around marks and label, or the
    part around the marks, whichever fits first. -/
def windowOf (extent : Extent) (room : Nat) : Window :=
  let indentation := extent.indentation - cutRoom
  let markStart := extent.markStart - cutRoom
  let markStop := extent.markStop + cutRoom
  let labelStop := extent.labelStop + cutRoom
  let left := if 20 < indentation then indentation - 16 else 0
  let right := max extent.lineLength left
  -- Everything fits.
  if right - left ≤ room then ⟨left, right, room⟩
  -- Without the indentation, marks and label fit.
  else if labelStop - indentation ≤ room then ⟨indentation, indentation + room, room⟩
  -- Marks and label fit; they are put in the middle.
  else if labelStop - markStart ≤ room then
    let left := markStart - (room - (labelStop - markStart)) / 2
    ⟨left, left + room, room⟩
  -- Only the marks fit; more is shown behind them than in front.
  else if markStop - markStart ≤ room then
    let left := markStart - (room - (markStop - markStart)) / 5 * 2
    ⟨left, left + room, room⟩
  else ⟨markStart, markStop, room⟩

/-! ## Cutting a line -/

/-- Drops characters until `count` columns are gone; returns how many are. -/
def dropColumns (count : Nat) : (gone : Nat) → List Char → Nat × List Char
  | gone, [] => (gone, [])
  | gone, c :: rest =>
    if gone < count then dropColumns count (gone + charWidth c) rest else (gone, c :: rest)

/-- Takes characters that fit into `count` columns. -/
def takeColumns (count : Nat) : List Char → List Char
  | [] => []
  | c :: rest =>
    if charWidth c ≤ count then c :: takeColumns (count - charWidth c) rest else []

/-- The fewest characters in front that take `count` columns, or all. -/
def coverColumns (count : Nat) : List Char → List Char
  | [] => []
  | c :: rest =>
    c :: if charWidth c < count then coverColumns (count - charWidth c) rest else []

/-- Draws a line at a column of a row.  Also returns how many columns the line has
    moved to the left. -/
def Window.draw (window : Window) (column : Nat) (text : List Char) : Row × Nat :=
  let length := width text
  let left := min window.left length
  let right :=
    if length - window.left ≤ window.room then length else min length window.right
  let (gone, rest) := dropColumns left 0 text
  let shown := takeColumns (right - left) rest
  let moved := max left gone
  let covered := if 0 < window.left then coverColumns ellipsis.length shown else []
  let kept := shown.drop covered.length
  let row : Row :=
    (if 0 < window.left then Row.put column .gutter ellipsis [] else []).put
      (column + width covered) .normal kept
  let row :=
    if right < length then
      let last := (coverColumns ellipsis.length shown.reverse).length
      row.put (column + width covered + kept.length - last) .gutter ellipsis
    else row
  (row, moved + (width covered - ellipsis.length))

end Stencil.Diagnostic
