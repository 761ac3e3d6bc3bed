/-! # Pictures of styled cells

A diagnostic is drawn as rows of cells, each a character with a style.

* `Row.put` — writes a text at a column, over what is there;
* `plain` / `styled` — the text of rows, without styles or with the escape
  sequences of terminals.
-/

namespace Stencil.Diagnostic

/-- The ways in which a part of a diagnostic is set off. -/
inductive Style where
  | normal
  /-- What the message says. -/
  | strong
  /-- What is wrong, and where. -/
  | fault
  /-- Everything around the source. -/
  | gutter
  deriving DecidableEq, Repr

/-- A character with its style. -/
structure Cell where
  character : Char
  style : Style
  deriving DecidableEq, Repr

/-- A cell that nothing was written to. -/
def Cell.blank : Cell := ⟨' ', .normal⟩

/-- A line of a picture. -/
abbrev Row := List Cell

/-- The cells of a text. -/
def cells (style : Style) (text : List Char) : Row := text.map fun c => ⟨c, style⟩

/-- Writes a text into a row, starting at a column.  Cells before it are made if
    they are missing. -/
def Row.put (column : Nat) (style : Style) (text : List Char) (row : Row) : Row :=
  if text.isEmpty then row
  else
    let whole := row ++ List.replicate (column - row.length) Cell.blank
    whole.take column ++ cells style text ++ whole.drop (column + text.length)

/-- The mark for what has been left out. -/
def ellipsis : List Char := "...".toList

/-- Leaves out the cells from `start` to `stop`, if the row reaches that far. -/
def Row.leaveOut (start stop : Nat) (row : Row) : Row :=
  if start = stop || start > row.length || stop > row.length then row
  else Row.put start .gutter ellipsis (row.take start ++ row.drop (stop - ellipsis.length))

/-- Writing within a row does not change its length. -/
theorem Row.length_put {column : Nat} {style : Style} {text : List Char} {row : Row}
    (fits : column + text.length ≤ row.length) :
    (row.put column style text).length = row.length := by
  unfold Row.put
  split
  · rfl
  · have : column - row.length = 0 := by omega
    simp only [this, cells, List.replicate_zero, List.append_nil, List.length_append,
      List.length_take, List.length_map, List.length_drop]
    omega

/-! ## Text -/

/-- Joins lines. -/
def joinLines (lines : List (List Char)) : List Char := List.intercalate ['\n'] lines

/-- The text of rows without their styles. -/
def plain (rows : List Row) : List Char := joinLines (rows.map (·.map Cell.character))

/-- What switches a terminal from the normal style to a style. -/
def Style.begin : Style → List Char
  | .normal => []
  | .strong => "\x1b[1m".toList
  | .fault => "\x1b[1m\x1b[91m".toList
  | .gutter => "\x1b[1m\x1b[94m".toList

/-- What switches a terminal back to the normal style. -/
def Style.finish : Style → List Char
  | .normal => []
  | _ => "\x1b[0m".toList

/-- The text of a row for a terminal that is in a style; at the end of the row it
    is back in the normal one. -/
def styledRow (current : Style) : Row → List Char
  | [] => current.finish
  | cell :: rest =>
    if cell.style = current then cell.character :: styledRow current rest
    else
      current.finish ++ cell.style.begin ++ cell.character :: styledRow cell.style rest

/-- The text of rows with their styles. -/
def styled (rows : List Row) : List Char := joinLines (rows.map (styledRow .normal))

end Stencil.Diagnostic
