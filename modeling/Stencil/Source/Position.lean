import Stencil.Source.Span
import Stencil.Text.Utf8

/-! # Lines and columns

A `LineIndex` holds the byte position at which every line of a text starts.  The
line of a byte is found by halving the index.  A position is shown as a line
counted from one, in a 32-bit word, and a byte column counted from zero.

* `bisect` / `search` — where a number stands among increasing ones;
* `LineIndex.ofText` — the index of a text;
* `LineIndex.position` — the line and column at which a span begins.
-/

namespace Stencil.Source

open Stencil.Text (byteLength decimal)

/-- Where a byte stands: its line, from one, and its byte column, from zero. -/
structure Position where
  line : Nat
  column : Nat
  deriving DecidableEq, Repr

/-- The position as it is shown in messages. -/
def Position.render (position : Position) : List Char :=
  decimal position.line ++ ':' :: decimal position.column

/-! ## Searching increasing numbers -/

/-- Halves a stretch of `size` numbers until one is left, keeping the half in which the
    numbers stop to be at most the target. -/
def bisect (numbers : Array Nat) (target base size : Nat) (filled : 0 < size)
    (inside : base + size ≤ numbers.size) : Fin numbers.size :=
  if several : 1 < size then
    if target < numbers[base + size / 2] then
      bisect numbers target base (size - size / 2) (by omega) (by omega)
    else bisect numbers target (base + size / 2) (size - size / 2) (by omega) (by omega)
  else ⟨base, by omega⟩
termination_by size

/-- Where a number is among increasing ones (`ok`), or in front of which of them it
    would have to stand (`error`). -/
def search (target : Nat) (numbers : Array Nat) : Except Nat Nat :=
  if filled : 0 < numbers.size then
    let found := bisect numbers target 0 numbers.size filled (by omega)
    if numbers[found] = target then .ok found
    else if numbers[found] < target then .error (found + 1)
    else .error found
  else .error 0

/-! ## Line starts -/

/-- The byte positions of the starts of the lines after the first one, for a
    text whose first byte is at `offset`. -/
def lineStartsFrom (offset : Nat) : List Char → List Nat
  | [] => []
  | c :: rest =>
    let next := offset + c.utf8Size
    if c = '\n' then min next wordMax :: lineStartsFrom next rest
    else lineStartsFrom next rest

/-- The byte positions of all line starts, in increasing order.  The first line starts
    in front of everything. -/
structure LineIndex where
  starts : Array Nat
  filled : 0 < starts.size
  first : starts[0] = 0
  deriving Repr

/-- The index of a text. -/
def LineIndex.ofText (text : List Char) : LineIndex where
  starts := (0 :: lineStartsFrom 0 text).toArray
  filled := by simp
  first := rfl

/-- The line and column of a byte position: the line is the last one that
    starts at or before it. -/
def LineIndex.locate (index : LineIndex) (offset : Nat) : Position :=
  let line := match search offset index.starts with
    | .ok line => line
    | .error 0 => 0
    | .error (next + 1) => next
  { line := min (line + 1) wordMax, column := offset - index.starts.getD line 0 }

/-- The line and column of the first byte of a span. -/
def LineIndex.position (index : LineIndex) (span : Span) : Position :=
  index.locate span.first

/-! ## Laws -/

section Laws

variable {numbers : Array Nat} {target base size : Nat}

/-- If the first number is at most the target, then so is the one that is left. -/
theorem getElem_le_of_bisect {filled : 0 < size} {inside : base + size ≤ numbers.size}
    (found : Fin numbers.size) (first : numbers[base] ≤ target) :
    bisect numbers target base size filled inside = found → numbers[found] ≤ target := by
  fun_induction bisect numbers target base size filled inside with
  | case1 _ _ _ _ _ _ ih => exact ih first
  | case2 _ _ _ _ _ upper ih => exact ih (Nat.le_of_not_lt upper)
  | case3 =>
    rintro rfl
    exact first

namespace LineIndex

variable (index : LineIndex) (offset : Nat)

/-- The place of the line start at which halving the index ends. -/
def reached : Fin index.starts.size :=
  bisect index.starts offset 0 index.starts.size index.filled (Nat.le_of_eq (Nat.zero_add _))

/-- The line start at a place. -/
def startAt (place : Fin index.starts.size) : Nat := index.starts[place]

theorem getElem?_starts (place : Fin index.starts.size) :
    index.starts[place.val]? = some (index.startAt place) :=
  Array.getElem?_eq_getElem place.isLt

theorem startAt_reached_le : index.startAt (index.reached offset) ≤ offset :=
  getElem_le_of_bisect _ (by simp [index.first]) rfl

theorem search_starts : search offset index.starts =
    if index.startAt (index.reached offset) = offset then .ok (index.reached offset).val
    else .error ((index.reached offset).val + 1) := by
  rw [search, dif_pos index.filled]
  have below := index.startAt_reached_le offset
  by_cases hit : index.startAt (index.reached offset) = offset
  · rw [if_pos hit]
    exact if_pos hit
  · rw [if_neg hit]
    exact (if_neg hit).trans (if_pos (Nat.lt_of_le_of_ne below hit))

/-- A position is the line that is reached and the way from its start. -/
theorem locate_eq : index.locate offset =
    ⟨min (index.reached offset + 1) wordMax, offset - index.startAt (index.reached offset)⟩ := by
  have start (place : Fin index.starts.size) : index.starts.getD place 0 = index.startAt place := by
    rw [Array.getD_eq_getD_getElem?, getElem?_starts, Option.getD_some]
  unfold locate
  by_cases hit : index.startAt (index.reached offset) = offset
  · simp only [search_starts, if_pos hit, start]
  · simp only [search_starts, if_neg hit, start]

end LineIndex

end Laws

end Stencil.Source
