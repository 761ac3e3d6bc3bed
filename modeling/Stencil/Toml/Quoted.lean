import Stencil.Json.Reader

/-! # TOML strings

Strings stand between quotes or apostrophes; three of either let a string span
lines.  Between apostrophes everything stands for itself, between quotes a
backslash starts an escape.

* `readBasic?` / `readLiteral?` — strings on one line, after their opening mark;
* `readLongBasic?` / `readLongLiteral?` — strings that may span lines;
* `readString?` — any of the four.
-/

namespace Stencil.Toml

open Stencil.Json (hexValue?)

/-- Whether a character may stand in a string or a comment. -/
def isPlain (c : Char) : Bool := c == '\t' || (' ' ≤ c && c ≠ '\x7f')

/-- The character that an escape letter denotes. -/
def escapeLetter? (c : Char) : Option Char :=
  [('"', '"'), ('\\', '\\'), ('b', '\x08'), ('e', '\x1b'), ('f', '\x0c'), ('n', '\n'),
   ('r', '\r'), ('t', '\t')].lookup c

/-- The number of digits that follow an escape letter. -/
def escapeWidth? (c : Char) : Option Nat := [('x', 2), ('u', 4), ('U', 8)].lookup c

/-- The character that hexadecimal digits denote. -/
def hexCharacter? (digits : List Char) : Option Char := do
  let code ← digits.foldlM (fun sum c => (hexValue? c).map (16 * sum + ·)) 0
  guard code.isValidChar
  return Char.ofNat code

/-- Reads an escape after its backslash. -/
def readEscape? : List Char → Option (Char × List Char)
  | [] => none
  | c :: rest =>
    match escapeLetter? c with
    | some escaped => some (escaped, rest)
    | none => do
      let width ← escapeWidth? c
      if rest.length < width then none
      else return (← hexCharacter? (rest.take width), rest.drop width)

theorem readEscape?_shorter {text rest : List Char} {c : Char}
    (read : readEscape? text = some (c, rest)) : rest.length < text.length := by
  cases text with
  | nil => simp [readEscape?] at read
  | cons first others =>
    simp only [readEscape?] at read
    split at read
    · simp only [Option.some.injEq, Prod.mk.injEq] at read
      simp [← read.2]
    · simp only [Option.pure_def, Option.bind_eq_bind, Option.bind_eq_some_iff] at read
      obtain ⟨width, _, read⟩ := read
      split at read
      · simp at read
      · simp only [Option.bind_eq_some_iff, Option.some.injEq, Prod.mk.injEq] at read
        obtain ⟨_, _, _, rfl⟩ := read
        simp only [List.length_drop, List.length_cons]
        omega

/-- Reads a string after its quote. -/
def readBasic? (text : List Char) : Option (List Char × List Char) :=
  match text with
  | [] => none
  | '"' :: rest => some ([], rest)
  | '\\' :: rest =>
    match _escaped : readEscape? rest with
    | none => none
    | some (c, after) => do
      let (text, after) ← readBasic? after
      return (c :: text, after)
  | c :: rest =>
    if !isPlain c then none
    else do
      let (text, after) ← readBasic? rest
      return (c :: text, after)
termination_by text.length
decreasing_by
  · have := readEscape?_shorter _escaped
    simp only [List.length_cons]
    omega
  · simp

/-- Reads a string after its apostrophe. -/
def readLiteral? : List Char → Option (List Char × List Char)
  | [] => none
  | '\'' :: rest => some ([], rest)
  | c :: rest => do
    guard (isPlain c)
    let (text, after) ← readLiteral? rest
    return (c :: text, after)

/-! ## Strings that span lines -/

/-- The end of a string at three marks; two more of them in front belong to the
    text. -/
def closeLong? (mark : Char) (text : List Char) : Option (List Char × List Char) :=
  let run := (text.takeWhile (· = mark)).length
  if 3 ≤ run then
    let kept := min (run - 3) 2
    some (List.replicate kept mark, text.drop (kept + 3))
  else none

/-- What a backslash at the end of a line swallows: the blanks after it, the line
    end, and all blanks and line ends after that. -/
def continueLine? (text : List Char) : Option (List Char) :=
  let isBlank (c : Char) : Bool := c == ' ' || c == '\t'
  let skip (text : List Char) : List Char :=
    text.dropWhile fun c => isBlank c || c == '\n' || c == '\r'
  match text.dropWhile isBlank with
  | '\n' :: rest | '\r' :: '\n' :: rest => some (skip rest)
  | _ => none

theorem continueLine?_shorter {text rest : List Char} (read : continueLine? text = some rest) :
    rest.length < text.length := by
  have shorter (keep : Char → Bool) (text : List Char) :
      (text.dropWhile keep).length ≤ text.length :=
    (List.dropWhile_sublist keep).length_le
  -- A line end is swallowed in either form.
  have behind (blank skip : Char → Bool) (ends later : List Char) (filled : 0 < ends.length)
      (tail : text.dropWhile blank = ends ++ later) :
      (later.dropWhile skip).length < text.length := by
    have start := shorter blank text
    have finish := shorter skip later
    rw [tail, List.length_append] at start
    omega
  unfold continueLine? at read
  simp only at read
  split at read
  · next after tail =>
    cases read
    exact behind _ _ ['\n'] after (by decide) tail
  · next after tail =>
    cases read
    exact behind _ _ ['\r', '\n'] after (by decide) tail
  · cases read

/-- Reads a string after its three quotes and the line end that may follow. -/
def readLongBasic? (text : List Char) : Option (List Char × List Char) :=
  match text with
  | [] => none
  | '\\' :: rest =>
    match _continued : continueLine? rest with
    | some after => readLongBasic? after
    | none =>
      match _escaped : readEscape? rest with
      | none => none
      | some (c, after) => do
        let (text, after) ← readLongBasic? after
        return (c :: text, after)
  | '\r' :: rest =>
    if rest.head? ≠ some '\n' then none
    else do
      let (text, after) ← readLongBasic? rest
      return ('\r' :: text, after)
  | c :: rest =>
    match closeLong? '"' (c :: rest) with
    | some closed => some closed
    | none =>
      if !(isPlain c || c == '\n') then none
      else do
        let (text, after) ← readLongBasic? rest
        return (c :: text, after)
termination_by text.length
decreasing_by
  · have := continueLine?_shorter _continued
    simp only [List.length_cons]
    omega
  · have := readEscape?_shorter _escaped
    simp only [List.length_cons]
    omega
  · simp
  · simp

/-- Reads a string after its three apostrophes and the line end that may follow. -/
def readLongLiteral? : List Char → Option (List Char × List Char)
  | [] => none
  | '\r' :: rest => do
    guard (rest.head? = some '\n')
    let (text, after) ← readLongLiteral? rest
    return ('\r' :: text, after)
  | c :: rest =>
    match closeLong? '\'' (c :: rest) with
    | some closed => some closed
    | none => do
      guard (isPlain c || c == '\n')
      let (text, after) ← readLongLiteral? rest
      return (c :: text, after)

/-- The text without a line end in front. -/
def dropLineEnd : List Char → List Char
  | '\n' :: rest | '\r' :: '\n' :: rest => rest
  | text => text

/-- Reads a string of any kind. -/
def readString? : List Char → Option (List Char × List Char)
  | '"' :: '"' :: '"' :: rest => readLongBasic? (dropLineEnd rest)
  | '\'' :: '\'' :: '\'' :: rest => readLongLiteral? (dropLineEnd rest)
  | '"' :: rest => readBasic? rest
  | '\'' :: rest => readLiteral? rest
  | _ => none

end Stencil.Toml
