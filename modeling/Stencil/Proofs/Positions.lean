import Mathlib.Algebra.Group.Nat.Defs
import Mathlib.Data.List.DropRight
import Stencil.Proofs.Octets
import Stencil.Source.Position

/-! # Spans and positions

Spans and the starts of lines are held in 32-bit words.  Cutting a start and a
length to a word comes to cutting both bounds.  In a text of less than four
gibibytes no start is cut, so that the index splits at every offset into the
starts up to there, which are as many as the lines, and those behind.  Halving
the index ends at the last one of the first part.

* `Span.ofBounds_saturates` — the bounds of a span;
* `startsFrom` — the starts of lines, told from the bytes of a text;
* `bisect_eq` — halving finds where increasing numbers pass a target;
* `Position.behind` — the position behind some bytes;
* `locate_ofText` — the index finds the position behind the bytes in front;
* `isPlace_iff` — where a word can count the lines;
* `position_exact` — positions are exact, and different offsets have different ones.
-/

namespace Stencil.Source

open Stencil.Text

/-! ## Bounds -/

/-- Both bounds of a span are cut to a word, whatever their order. -/
theorem Span.ofBounds_saturates (start stop : Nat) :
    (Span.ofBounds start stop).first = min start (2 ^ 32 - 1) ∧
      (Span.ofBounds start stop).stop = min (max start stop) (2 ^ 32 - 1) :=
  ⟨Span.first_ofBounds_eq_min start stop, Span.stop_ofBounds_eq_min start stop⟩

/-! ## Starts of lines in bytes -/

/-- The byte that ends a line. -/
def newline : UInt8 := 10

/-- The starts of the lines that begin within or right behind some bytes at an offset. -/
def startsFrom (offset : Nat) : List UInt8 → List Nat
  | [] => []
  | byte :: rest =>
    if byte = newline then (offset + 1) :: startsFrom (offset + 1) rest
    else startsFrom (offset + 1) rest

section Starts

variable {offset : Nat} {read : List UInt8} {text : List Char} {c : Char}

theorem startsFrom_append (offset : Nat) (left right : List UInt8) :
    startsFrom offset (left ++ right) =
      startsFrom offset left ++ startsFrom (offset + left.length) right := by
  induction left generalizing offset with
  | nil => rfl
  | cons byte left ih =>
    rw [List.cons_append, startsFrom, startsFrom, ih, List.length_cons, Nat.add_assoc,
      Nat.add_comm 1]
    split <;> rfl

theorem startsFrom_of_not_mem (absent : newline ∉ read) : startsFrom offset read = [] := by
  induction read generalizing offset with
  | nil => rfl
  | cons byte read ih =>
    rw [List.mem_cons, not_or] at absent
    rw [startsFrom, if_neg (Ne.symm absent.1), ih absent.2]

/-- A line that begins within or behind some bytes begins behind the first of them. -/
theorem startsFrom_bounds {start : Nat} (listed : start ∈ startsFrom offset read) :
    offset < start ∧ start ≤ offset + read.length := by
  induction read generalizing offset with
  | nil => cases listed
  | cons byte read ih =>
    have later (inside : start ∈ startsFrom (offset + 1) read) :
        offset < start ∧ start ≤ offset + (byte :: read).length := by
      have bounds := ih inside
      rw [List.length_cons]
      omega
    rw [startsFrom] at listed
    split at listed
    · rcases List.mem_cons.1 listed with rfl | inside
      · rw [List.length_cons]
        omega
      · exact later inside
    · exact later listed

/-- There are as many starts in front of the last one as newlines, and the last one and
    the bytes behind the last newline make up the whole. -/
theorem exists_last_start (offset : Nat) (read : List UInt8) :
    ∃ front start, offset :: startsFrom offset read = front ++ [start] ∧
      front.length = read.count newline ∧
      start + (read.rtakeWhile (· != newline)).length = offset + read.length := by
  induction read using List.reverseRecOn with
  | nil => exact ⟨[], offset, rfl, rfl, rfl⟩
  | append_singleton read byte ih =>
    obtain ⟨front, start, starts, count, whole⟩ := ih
    have appended : offset :: startsFrom offset (read ++ [byte]) =
        (front ++ [start]) ++ startsFrom (offset + read.length) [byte] := by
      rw [startsFrom_append, ← List.cons_append, starts]
    by_cases ends : byte = newline
    · refine ⟨front ++ [start], offset + read.length + 1, ?_, ?_, ?_⟩
      · rw [appended, startsFrom, if_pos ends, startsFrom]
      · simp [count, ends]
      · rw [List.rtakeWhile_concat_neg _ _ _ (by simpa using ends)]
        simp [Nat.add_assoc]
    · refine ⟨front, start, ?_, ?_, ?_⟩
      · rw [appended, startsFrom, if_neg ends, startsFrom, List.append_nil]
      · simp [count, ends]
      · rw [List.rtakeWhile_concat_pos _ _ _ (by simpa using ends), List.length_append,
          List.length_append, ← Nat.add_assoc, whole, Nat.add_assoc]

/-- No byte of another character is a newline. -/
theorem newline_not_mem_bytes (other : c ≠ '\n') : newline ∉ bytes [c] := by
  intro listed
  have octet : '\n' ∈ octets [c] := List.mem_map.2 ⟨newline, listed, rfl⟩
  by_cases wide : IsWide c
  · exact absurd (isWide_of_mem_octets wide octet) (by decide)
  · rw [octets_narrow wide, List.mem_singleton] at octet
    exact other octet.symm

theorem bytes_cons (c : Char) (text : List Char) : bytes (c :: text) = bytes [c] ++ bytes text :=
  bytes_append [c] text

/-- In a text that a word can measure no start is cut. -/
theorem lineStartsFrom_eq (small : offset + byteLength text ≤ wordMax) :
    lineStartsFrom offset text = startsFrom offset (bytes text) := by
  induction text generalizing offset with
  | nil => rfl
  | cons c text ih =>
    rw [byteLength_cons] at small
    rw [lineStartsFrom, ih (by omega), bytes_cons, startsFrom_append, length_bytes, byteLength_cons,
      byteLength_nil, Nat.add_zero]
    by_cases ends : c = '\n'
    · subst ends
      rw [if_pos rfl, Nat.min_eq_left (by omega)]
      rfl
    · rw [if_neg ends, startsFrom_of_not_mem (newline_not_mem_bytes ends), List.nil_append]

end Starts

/-! ## Halving -/

/-- Halving ends at the last of the numbers that are at most the target. -/
theorem bisect_eq {numbers : Array Nat} {target base size last : Nat} {filled : 0 < size}
    {inside : base + size ≤ numbers.size} (lowest : base ≤ last) (highest : last < base + size)
    (below : ∀ i (inside : i < numbers.size), i ≤ last → numbers[i] ≤ target)
    (above : ∀ i (inside : i < numbers.size), last < i → target < numbers[i]) :
    (bisect numbers target base size filled inside).val = last := by
  -- The last of them stays within the stretch, until the stretch has only one number.
  fun_induction bisect numbers target base size filled inside with
  | case1 base size filled inside several lower ih =>
    have front : last < base + size / 2 := by
      by_contra behind
      have := below (base + size / 2) (by omega) (by omega)
      omega
    exact ih lowest (by omega)
  | case2 base size filled inside several upper ih =>
    have behind : base + size / 2 ≤ last := by
      by_contra front
      have := above (base + size / 2) (by omega) (by omega)
      omega
    exact ih behind (by omega)
  | case3 base size filled inside single =>
    show base = last
    omega

/-- An index whose starts are split at an offset is left at the last of the first ones. -/
theorem LineIndex.reached_of_split {index : LineIndex} {offset start : Nat} {front later : List Nat}
    (split : index.starts.toList = front ++ start :: later)
    (early : ∀ place ∈ front ++ [start], place ≤ offset) (late : ∀ place ∈ later, offset < place) :
    (index.reached offset).val = front.length ∧ index.startAt (index.reached offset) = start := by
  have entry (i : Fin index.starts.size) :
      (front ++ start :: later)[i.val]? = some (index.startAt i) := by
    rw [← split, Array.getElem?_toList, index.getElem?_starts]
  have size : index.starts.size = front.length + (later.length + 1) := by
    rw [← Array.length_toList, split, List.length_append, List.length_cons]
  have reached : (index.reached offset).val = front.length := by
    refine bisect_eq (Nat.zero_le _) (by omega) (fun i inside upTo => ?_) fun i inside beyond => ?_
    · have seen := entry ⟨i, inside⟩
      rw [List.append_cons, List.getElem?_append_left (by simp; omega)] at seen
      exact early _ (List.mem_of_getElem? seen)
    · have seen := entry ⟨i, inside⟩
      rw [List.append_cons, List.getElem?_append_right (by simp; omega)] at seen
      exact late _ (List.mem_of_getElem? seen)
  have seen := entry (index.reached offset)
  rw [reached, List.getElem?_append_right (Nat.le_refl _), Nat.sub_self] at seen
  exact ⟨reached, (Option.some.inj seen).symm⟩

/-! ## Positions -/

/-- The position behind some bytes. -/
def Position.behind (read : List UInt8) : Position where
  line := 1 + read.count newline
  column := (read.rtakeWhile (· != newline)).length

/-- The order of positions. -/
def Position.Before (one other : Position) : Prop :=
  one.line < other.line ∨ one.line = other.line ∧ one.column < other.column

section Positions

variable {text : List Char} {offset : Nat} {one other : Position}

theorem Position.Before.ne (before : one.Before other) : one ≠ other := by
  rintro rfl
  rcases before with line | ⟨-, column⟩
  · exact Nat.lt_irrefl _ line
  · exact Nat.lt_irrefl _ column

/-- More bytes lead to a later line, or further on in the same one. -/
theorem Position.behind_before {more : List UInt8} (read : List UInt8) (filled : more ≠ []) :
    (behind read).Before (behind (read ++ more)) := by
  by_cases listed : newline ∈ more
  · have positive := List.count_pos_iff.2 listed
    left
    simp only [behind, List.count_append]
    omega
  · right
    have kept : ∀ byte ∈ more, (byte != newline) = true := by
      intro byte inside
      rw [bne_iff_ne]
      rintro rfl
      exact listed inside
    have column : (read ++ more).rtakeWhile (· != newline) =
        read.rtakeWhile (· != newline) ++ more := by
      rw [List.rtakeWhile, List.reverse_append, List.takeWhile_append_of_pos (by simpa using kept)]
      simp [List.rtakeWhile]
    have positive := List.length_pos_iff.2 filled
    simp only [behind, List.count_append, List.count_eq_zero_of_not_mem listed, column,
      List.length_append]
    omega

/-- The index reaches as many starts behind the first one as newlines are passed, and
    the bytes behind the last of them lead on to the offset. -/
theorem reached_ofText (small : byteLength text ≤ wordMax) (inside : offset ≤ byteLength text) :
    let index := LineIndex.ofText text
    let read := (bytes text).take offset
    (index.reached offset).val = read.count newline ∧
      index.startAt (index.reached offset) + (read.rtakeWhile (· != newline)).length = offset := by
  intro index read
  have length : read.length = offset := by
    rw [List.length_take, length_bytes, Nat.min_eq_left inside]
  obtain ⟨front, start, starts, count, whole⟩ := exists_last_start 0 read
  rw [Nat.zero_add, length] at whole
  -- Behind `start` the index goes on with the starts behind the offset.
  have split : index.starts.toList =
      front ++ start :: startsFrom offset ((bytes text).drop offset) := by
    have cut := startsFrom_append 0 read ((bytes text).drop offset)
    rw [List.take_append_drop, length, Nat.zero_add] at cut
    calc index.starts.toList
      _ = 0 :: lineStartsFrom 0 text := rfl
      _ = 0 :: startsFrom 0 (bytes text) := by rw [lineStartsFrom_eq (by omega)]
      _ = front ++ start :: startsFrom offset ((bytes text).drop offset) := by
        rw [cut, ← List.cons_append, starts, List.append_assoc, List.singleton_append]
  have early (place : Nat) (listed : place ∈ front ++ [start]) : place ≤ offset := by
    rw [← starts] at listed
    rcases List.mem_cons.1 listed with rfl | later
    · exact Nat.zero_le _
    · have bounds := startsFrom_bounds later
      omega
  obtain ⟨reached, column⟩ := LineIndex.reached_of_split split early
    fun place listed => (startsFrom_bounds listed).1
  exact ⟨reached.trans count, by rw [column, whole]⟩

/-- The index finds the position behind the bytes in front of an offset, but for lines
    that no word can count. -/
theorem locate_ofText (small : byteLength text ≤ wordMax) (inside : offset ≤ byteLength text) :
    (LineIndex.ofText text).locate offset =
      ⟨min (1 + ((bytes text).take offset).count newline) wordMax,
        (((bytes text).take offset).rtakeWhile (· != newline)).length⟩ := by
  obtain ⟨line, column⟩ := reached_ofText small inside
  have way : offset - (LineIndex.ofText text).startAt ((LineIndex.ofText text).reached offset) =
      (((bytes text).take offset).rtakeWhile (· != newline)).length := by omega
  rw [LineIndex.locate_eq, way, line, Nat.add_comm 1]

/-! ## Lines that a word can count -/

/-- The offsets of a text: those of its bytes, and its end.  The end of a text of nothing
    but 2^32 - 1 newlines is none of them, because no word can count its line. -/
def IsPlace (text : List Char) (offset : Nat) : Prop :=
  offset < byteLength text ∨ offset = byteLength text ∧ text ≠ List.replicate (2 ^ 32 - 1) '\n'

theorem bytes_newlines (count : Nat) :
    bytes (List.replicate count '\n') = List.replicate count newline := by
  have single : String.utf8EncodeChar '\n' = [newline] := by decide
  rw [bytes, List.flatMap_replicate, single, List.flatten_replicate_singleton]

theorem byteLength_newlines (count : Nat) : byteLength (List.replicate count '\n') = count := by
  rw [← length_bytes, bytes_newlines, List.length_replicate]

/-- In a text of newlines every offset is the start of a line. -/
theorem locate_newlines {count : Nat} (small : count ≤ wordMax) (inside : offset ≤ count) :
    (LineIndex.ofText (List.replicate count '\n')).locate offset =
      ⟨min (1 + offset) wordMax, 0⟩ := by
  have size := byteLength_newlines count
  rw [locate_ofText (by omega) (by omega), bytes_newlines, List.take_replicate,
    Nat.min_eq_left inside, List.count_replicate_self]
  simp [List.rtakeWhile]

/-- A text whose bytes are all newlines holds nothing else. -/
theorem eq_newlines_of_count (all : (bytes text).count newline = byteLength text) :
    text = List.replicate (byteLength text) '\n' := by
  have every : ∀ c ∈ text, c = '\n' := by
    intro c listed
    by_contra other
    have filled : bytes [c] ≠ [] := by
      rw [← List.length_pos_iff, length_bytes]
      simpa using c.utf8Size_pos
    obtain ⟨byte, inside⟩ := List.exists_mem_of_ne_nil _ filled
    have whole : byte ∈ bytes text := List.mem_flatMap.2 ⟨c, listed, by simpa [bytes] using inside⟩
    have same : newline = byte := List.count_eq_length.1 (by rw [all, length_bytes]) byte whole
    exact newline_not_mem_bytes other (same ▸ inside)
  obtain ⟨count, rfl⟩ : ∃ count, text = List.replicate count '\n' :=
    ⟨text.length, List.eq_replicate_of_mem every⟩
  rw [byteLength_newlines]

/-- A line is cut exactly at the one end of a text that is no place. -/
theorem isPlace_iff (short : byteLength text < 2 ^ 32) :
    IsPlace text offset ↔ offset ≤ byteLength text ∧
      1 + ((bytes text).take offset).count newline ≤ wordMax := by
  have word : wordMax = 2 ^ 32 - 1 := rfl
  have passed : ((bytes text).take offset).count newline ≤ offset :=
    Nat.le_trans List.count_le_length (List.length_take_le _ _)
  constructor
  · rintro (inside | ⟨rfl, other⟩)
    · omega
    · have whole : (bytes text).take (byteLength text) = bytes text := by
        rw [← length_bytes, List.take_length]
      rw [whole] at passed ⊢
      refine ⟨Nat.le_refl _, ?_⟩
      -- Otherwise all bytes are newlines, and they are as many as a word can count.
      by_contra cut
      have size : byteLength text = 2 ^ 32 - 1 := by omega
      have all : text = List.replicate (byteLength text) '\n' := eq_newlines_of_count (by omega)
      rw [size] at all
      exact other all
  · rintro ⟨inside, counted⟩
    rcases Nat.lt_or_eq_of_le inside with inner | rfl
    · exact .inl inner
    · refine .inr ⟨rfl, ?_⟩
      rintro rfl
      rw [byteLength_newlines, bytes_newlines, List.take_replicate,
        List.count_replicate_self] at counted
      omega

end Positions

/-! ## Positions of spans -/

section Spans

variable {text : List Char} {span one other : Span}

theorem position_eq_behind (short : byteLength text < 2 ^ 32) (place : IsPlace text span.first) :
    (LineIndex.ofText text).position span = .behind ((bytes text).take span.first) := by
  obtain ⟨inside, counted⟩ := (isPlace_iff short).1 place
  rw [LineIndex.position, locate_ofText (Nat.le_of_lt_succ short) inside, Nat.min_eq_left counted]
  rfl

/-- The start of the line and the column make up the offset. -/
theorem first_of_position (short : byteLength text < 2 ^ 32) (place : IsPlace text span.first) :
    let position := (LineIndex.ofText text).position span
    ((LineIndex.ofText text).starts[position.line - 1]?).map (· + position.column) =
      some span.first := by
  intro position
  obtain ⟨inside, -⟩ := (isPlace_iff short).1 place
  obtain ⟨reached, whole⟩ := reached_ofText (Nat.le_of_lt_succ short) inside
  have placed : position = .behind ((bytes text).take span.first) := position_eq_behind short place
  have line : position.line - 1 = ((LineIndex.ofText text).reached span.first).val := by
    rw [placed, reached, Position.behind, Nat.add_sub_cancel_left]
  rw [line, LineIndex.getElem?_starts, Option.map_some, placed]
  exact congrArg some whole

theorem position_before (short : byteLength text < 2 ^ 32) (place : IsPlace text one.first)
    (otherPlace : IsPlace text other.first) (later : one.first < other.first) :
    ((LineIndex.ofText text).position one).Before ((LineIndex.ofText text).position other) := by
  obtain ⟨inside, -⟩ := (isPlace_iff short).1 otherPlace
  have split : (bytes text).take other.first = (bytes text).take one.first ++
      ((bytes text).drop one.first).take (other.first - one.first) := by
    rw [← List.take_add, Nat.add_sub_cancel' (Nat.le_of_lt later)]
  have filled : ((bytes text).drop one.first).take (other.first - one.first) ≠ [] := by
    rw [← List.length_pos_iff, List.length_take, List.length_drop, length_bytes]
    omega
  rw [position_eq_behind short place, position_eq_behind short otherPlace, split]
  exact Position.behind_before _ filled

/-- Where a line is cut there are only newlines in front. -/
theorem position_of_not_isPlace (inside : span.first ≤ byteLength text)
    (beyond : ¬ IsPlace text span.first) :
    (LineIndex.ofText text).position span = ⟨2 ^ 32 - 1, 0⟩ := by
  rw [IsPlace, not_or, not_and_not_right] at beyond
  have last : span.first = byteLength text := Nat.le_antisymm inside (Nat.le_of_not_lt beyond.1)
  obtain rfl := beyond.2 last
  rw [byteLength_newlines] at last
  rw [LineIndex.position, last]
  exact locate_newlines (Nat.le_refl _) (Nat.le_refl _)

end Spans

/-- Positions are exact: the line of an offset is one more than the newlines in front of
    it, the column is the number of bytes since the last of them, and the start of the
    line and the column make up the offset.  So later offsets have later positions, and
    no two have the same.  At the only end of a text that is no place the line is cut. -/
theorem position_exact {text : List Char} (short : byteLength text < 2 ^ 32) :
    let lines := LineIndex.ofText text
    (∀ span, IsPlace text span.first →
      (lines.position span).line = 1 + ((bytes text).take span.first).count newline ∧
      (lines.position span).column =
        (((bytes text).take span.first).rtakeWhile (· != newline)).length ∧
      (lines.starts[(lines.position span).line - 1]?).map (· + (lines.position span).column) =
        some span.first) ∧
    (∀ one other, IsPlace text one.first → IsPlace text other.first → one.first < other.first →
      (lines.position one).Before (lines.position other)) ∧
    (∀ one other, IsPlace text one.first → IsPlace text other.first →
      lines.position one = lines.position other → one.first = other.first) ∧
    ∀ span, span.first ≤ byteLength text → ¬ IsPlace text span.first →
      lines.position span = ⟨2 ^ 32 - 1, 0⟩ := by
  intro lines
  refine ⟨fun span place => ?_, fun _ _ => position_before short,
    fun one other place otherPlace same => ?_, fun _ => position_of_not_isPlace⟩
  · have placed : lines.position span = .behind ((bytes text).take span.first) :=
      position_eq_behind short place
    exact ⟨congrArg Position.line placed, congrArg Position.column placed,
      first_of_position short place⟩
  · -- Of two different offsets one is later, and so is its position.
    rcases Nat.lt_trichotomy one.first other.first with later | equal | later
    · exact absurd same (position_before short place otherPlace later).ne
    · exact equal
    · exact absurd same.symm (position_before short otherPlace place later).ne

/-- A letter of two bytes, a span within it, and the end of the text behind an empty line. -/
theorem position_exact_umlaut :
    byteLength "p\né\n\n".toList < 2 ^ 32 ∧
      IsPlace "p\né\n\n".toList 3 ∧ IsPlace "p\né\n\n".toList 6 ∧
      (LineIndex.ofText "p\né\n\n".toList).position ⟨3, 1⟩ = ⟨2, 1⟩ ∧
      (LineIndex.ofText "p\né\n\n".toList).position ⟨6, 0⟩ = ⟨4, 0⟩ ∧
      Position.Before ((LineIndex.ofText "p\né\n\n".toList).position ⟨3, 1⟩)
        ((LineIndex.ofText "p\né\n\n".toList).position ⟨6, 0⟩) := by
  have short : byteLength "p\né\n\n".toList < 2 ^ 32 := by decide
  have within : IsPlace "p\né\n\n".toList 3 := .inl (by decide)
  have last : IsPlace "p\né\n\n".toList 6 := by
    refine .inr ⟨by decide, fun same => ?_⟩
    have lengths := congrArg List.length same
    rw [List.length_replicate] at lengths
    exact absurd lengths (by decide)
  obtain ⟨exact, increasing, -, -⟩ := position_exact short
  obtain ⟨line, column, -⟩ := exact ⟨3, 1⟩ within
  obtain ⟨lastLine, lastColumn, -⟩ := exact ⟨6, 0⟩ last
  exact ⟨short, within, last, (congrArg₂ Position.mk line column).trans (by decide),
    (congrArg₂ Position.mk lastLine lastColumn).trans (by decide),
    increasing ⟨3, 1⟩ ⟨6, 0⟩ within last (by decide)⟩

/-- The end of a text of 2^32 - 1 newlines has the position of the newline in front of it,
    and not the line of its own that all these newlines make. -/
theorem position_newlines_cut :
    let text := List.replicate 4294967295 '\n'
    let lines := LineIndex.ofText text
    let last : Span := ⟨4294967294, 0⟩
    let finish : Span := ⟨4294967295, 0⟩
    byteLength text < 2 ^ 32 ∧ last.first < finish.first ∧ finish.first ≤ byteLength text ∧
      lines.position finish = lines.position last ∧
      (lines.position finish).line ≠ 1 + ((bytes text).take finish.first).count newline := by
  intro text lines last finish
  have size : byteLength text = 4294967295 := byteLength_newlines _
  have lastFirst : last.first = 4294967294 := rfl
  have finishFirst : finish.first = 4294967295 := rfl
  have placed (span : Span) (inside : span.first ≤ 4294967295) :
      lines.position span = ⟨min (1 + span.first) wordMax, 0⟩ :=
    locate_newlines (Nat.le_refl _) inside
  have whole : bytes text = List.replicate 4294967295 newline := bytes_newlines _
  have newlines : ((bytes text).take finish.first).count newline = 4294967295 := by
    rw [whole, List.take_replicate, List.count_replicate_self, finishFirst, Nat.min_self]
  refine ⟨by omega, by omega, by omega, ?_, ?_⟩
  · rw [placed last (by omega), placed finish (by omega), lastFirst, finishFirst]
    rfl
  · rw [placed finish (by omega), newlines, finishFirst]
    decide

end Stencil.Source
