/-! # Searching and replacing in text

Literal, case-sensitive searches over lists of characters.  Every search is
leftmost first, and replacements never overlap.

* `splitFirst?` — the text around the first occurrence of a mark;
* `replaceAll` — every occurrence, scanning left to right;
* `splitOn` — the pieces between separator characters.
-/

namespace Stencil.Text

/-- The text before and after the first occurrence of `mark`. -/
def splitFirst? (mark : List Char) : List Char → Option (List Char × List Char)
  | [] => if mark.isEmpty then some ([], []) else none
  | c :: rest =>
    match mark.isPrefixOf? (c :: rest) with
    | some after => some ([], after)
    | none => (splitFirst? mark rest).map fun (before, after) => (c :: before, after)

/-- Whether `mark` occurs anywhere in the text. -/
def occurs (mark text : List Char) : Bool := (splitFirst? mark text).isSome

/-- Replaces occurrences of `mark` from left to right.  `skip` counts the
    characters of the occurrence just replaced that still have to be passed. -/
def replaceFrom (mark replacement : List Char) : Nat → List Char → List Char
  | _, [] => []
  | skip + 1, _ :: rest => replaceFrom mark replacement skip rest
  | 0, c :: rest =>
    if mark.isPrefixOf (c :: rest) then
      replacement ++ replaceFrom mark replacement (mark.length - 1) rest
    else
      c :: replaceFrom mark replacement 0 rest

/-- Replaces every occurrence of the non-empty `mark`. -/
def replaceAll (mark replacement text : List Char) : List Char :=
  replaceFrom mark replacement 0 text

/-- Replaces every occurrence of one character by a text. -/
def replaceChar (mark : Char) (replacement text : List Char) : List Char :=
  text.flatMap fun c => if c = mark then replacement else [c]

/-- The pieces between the occurrences of `separator`; there is always one more
    piece than there are separators. -/
def splitOn (separator : Char) : List Char → List (List Char)
  | [] => [[]]
  | c :: rest =>
    if c = separator then
      [] :: splitOn separator rest
    else
      match splitOn separator rest with
      | [] => [[c]]
      | piece :: pieces => (c :: piece) :: pieces

/-- Joins pieces with a separator character between them. -/
def joinWith (separator : Char) (pieces : List (List Char)) : List Char :=
  List.intercalate [separator] pieces

/-- The text without `start` in front, when it begins with it. -/
def stripStart? (start text : List Char) : Option (List Char) := start.isPrefixOf? text

/-- The text without `finish` at its end, when it ends with it. -/
def stripEnd? (finish text : List Char) : Option (List Char) :=
  (finish.reverse.isPrefixOf? text.reverse).map List.reverse

/-! ## Laws -/

/-- What `isPrefixOf?` leaves is the text without its beginning. -/
theorem isPrefixOf?_eq_some_iff {start text rest : List Char} :
    start.isPrefixOf? text = some rest ↔ start ++ rest = text := by
  induction start generalizing text with
  | nil =>
    show some text = some rest ↔ rest = text
    rw [Option.some.injEq, eq_comm]
  | cons c start ih =>
    cases text with
    | nil =>
      show none = some rest ↔ c :: (start ++ rest) = []
      simp
    | cons d text =>
      show (if c == d then start.isPrefixOf? text else none) = some rest ↔
        c :: (start ++ rest) = d :: text
      by_cases same : c = d
      · simp [same, ih]
      · simp [same]

/-- A split keeps every character. -/
theorem splitFirst?_append {mark text before after : List Char}
    (found : splitFirst? mark text = some (before, after)) : before ++ mark ++ after = text := by
  fun_induction splitFirst? mark text generalizing before with
  | case1 empty =>
    simp only [Option.some.injEq, Prod.mk.injEq] at found
    obtain ⟨rfl, rfl⟩ := found
    simpa using empty
  | case2 => simp at found
  | case3 c rest tail starts =>
    simp only [Option.some.injEq, Prod.mk.injEq] at found
    obtain ⟨rfl, rfl⟩ := found
    simpa using isPrefixOf?_eq_some_iff.1 starts
  | case4 c rest _ ih =>
    simp only [Option.map_eq_some_iff, Prod.mk.injEq] at found
    obtain ⟨⟨inner, tail⟩, deeper, rfl, rfl⟩ := found
    simpa using ih deeper

theorem splitOn_ne_nil (separator : Char) (text : List Char) :
    splitOn separator text ≠ [] := by
  cases text with
  | nil => simp [splitOn]
  | cons c rest =>
    simp only [splitOn]
    split
    · simp
    · split <;> simp

/-- Joining what was split gives the text back. -/
theorem joinWith_splitOn (separator : Char) (text : List Char) :
    joinWith separator (splitOn separator text) = text := by
  induction text with
  | nil => rfl
  | cons c rest ih =>
    have nonempty := splitOn_ne_nil separator rest
    simp only [splitOn]
    cases pieces : splitOn separator rest with
    | nil => exact absurd pieces nonempty
    | cons piece others =>
      rw [pieces] at ih
      by_cases here : c = separator
      · simp_all [joinWith, List.intercalate]
      · cases others <;> simp_all [joinWith, List.intercalate]

end Stencil.Text
