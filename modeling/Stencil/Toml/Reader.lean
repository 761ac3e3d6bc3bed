import Stencil.Toml.Moment
import Stencil.Toml.Number
import Stencil.Toml.Quoted
import Stencil.Toml.Value

/-! # Reading TOML documents

A document is a sequence of lines: entries, headers and comments.

* `readKey?` — a dotted key as a path and a last key;
* `scalar?` — the value that a word denotes;
* `readValue?` — a value at the start of a text;
* `read?` — the entries of a whole document.
-/

namespace Stencil.Toml

/-! ## Space between tokens -/

/-- Skips blanks within a line. -/
def skipBlanks (text : List Char) : List Char := text.dropWhile fun c => c == ' ' || c == '\t'

/-- Skips a comment, if one starts here; it must not hold control characters. -/
def skipComment? : List Char → Option (List Char)
  | '#' :: rest =>
    match rest.dropWhile isPlain with
    | [] => some []
    | '\n' :: after => some ('\n' :: after)
    | '\r' :: '\n' :: after => some ('\n' :: after)
    | _ => none
  | text => some text

/-- Reads to the end of a line, where nothing but blanks and a comment may be
    left. -/
def endLine? (text : List Char) : Option (List Char) := do
  match ← skipComment? (skipBlanks text) with
  | [] => some []
  | '\n' :: rest | '\r' :: '\n' :: rest => some rest
  | _ => none

/-- Skips blanks, comments and line ends. -/
def skipLines? : (rounds : Nat) → List Char → Option (List Char)
  | 0, _ => none
  | rounds + 1, text => do
    match ← skipComment? (skipBlanks text) with
    | '\n' :: rest | '\r' :: '\n' :: rest => skipLines? rounds rest
    | rest => some rest

/-! ## Keys -/

/-- Whether a character may stand in a key without quotes. -/
def isBare (c : Char) : Bool := c.isAlphanum || c == '_' || c == '-'

/-- Reads one part of a key. -/
def readPart? : List Char → Option (List Char × List Char)
  | '"' :: rest => readBasic? rest
  | '\'' :: rest => readLiteral? rest
  | text =>
    let name := text.takeWhile isBare
    if name.isEmpty then none else some (name, text.dropWhile isBare)

/-- Reads a key: the parts before the last dot and the last part. -/
def readKey? : (rounds : Nat) → List Char → Option (List (List Char) × List Char × List Char)
  | 0, _ => none
  | rounds + 1, text => do
    let (part, rest) ← readPart? (skipBlanks text)
    match skipBlanks rest with
    | '.' :: rest => do
      let (path, last, rest) ← readKey? rounds rest
      return (part :: path, last, rest)
    | rest => return ([], part, rest)

/-! ## Values -/

/-- The value that a word without quotes denotes. -/
def scalar? (word : List Char) : Option Value :=
  if word = "true".toList then some (.boolean true)
  else if word = "false".toList then some (.boolean false)
  else
    (integer? word).map Value.integer <|> (float? word).map Value.float <|>
      (moment? word).map Value.moment

/-- Whether a character belongs to a word. -/
def isWordCharacter (c : Char) : Bool := c.isAlphanum || "+-_.:".toList.contains c

/-- Reads a word.  A date may be followed by a blank and a time. -/
def readWord (text : List Char) : List Char × List Char :=
  let word := text.takeWhile isWordCharacter
  let rest := text.dropWhile isWordCharacter
  match readDate? word, rest with
  | some (_, []), ' ' :: digit :: after =>
    if digit.isDigit then
      (word ++ ' ' :: (digit :: after).takeWhile isWordCharacter,
        (digit :: after).dropWhile isWordCharacter)
    else (word, rest)
  | _, _ => (word, rest)

mutual

/-- Reads a value.  Arrays and tables may stand inside each other `depth` deep;
    `rounds` need not exceed the length of the text. -/
def readValue? : (depth rounds : Nat) → List Char → Option (Value × List Char)
  | _, 0, _ => none
  | depth, rounds + 1, text =>
    match text with
    | '[' :: rest =>
      match depth with
      | 0 => none
      | depth + 1 => (readItems? depth rounds rest).map fun (items, after) => (.array items, after)
    | '{' :: rest =>
      match depth with
      | 0 => none
      | depth + 1 =>
        (readEntries? depth rounds [] rest).map fun (entries, after) =>
          (.table .inline entries, after)
    | '"' :: _ | '\'' :: _ => (readString? text).map fun (text, after) => (.string text, after)
    | _ => do
      let (word, after) := readWord text
      return (← scalar? word, after)

/-- Reads the items of an array up to its closing bracket. -/
def readItems? : (depth rounds : Nat) → List Char → Option (List Value × List Char)
  | _, 0, _ => none
  | depth, rounds + 1, text => do
    match ← skipLines? (rounds + 1) text with
    | ']' :: after => return ([], after)
    | text => do
      let (item, rest) ← readValue? depth rounds text
      match ← skipLines? (rounds + 1) rest with
      | ']' :: after => return ([item], after)
      | ',' :: rest => do
        let (items, after) ← readItems? depth rounds rest
        return (item :: items, after)
      | _ => none

/-- Reads the entries of a table up to its closing brace. -/
def readEntries? : (depth rounds : Nat) → Entries → List Char → Option (Entries × List Char)
  | _, 0, _, _ => none
  | depth, rounds + 1, entries, text => do
    match ← skipLines? (rounds + 1) text with
    | '}' :: after => return (entries, after)
    | text => do
      let (path, key, rest) ← readKey? (rounds + 1) text
      let rest ← ['='].isPrefixOf? rest
      let (value, rest) ← readValue? depth rounds (skipBlanks rest)
      let entries ← assign? path key value .opened entries
      match ← skipLines? (rounds + 1) rest with
      | '}' :: after => return (entries, after)
      | ',' :: rest => readEntries? depth rounds entries rest
      | _ => none

end

/-! ## Documents -/

/-- How deep arrays and tables may stand inside each other. -/
def depthLimit : Nat := 80

/-- What has been read of a document: its entries, and the path of the table that
    the next entries go to. -/
structure Progress where
  entries : Entries := []
  header : List (List Char) := []

/-- Adds an entry to the table of the last header. -/
def Progress.assign? (progress : Progress) (path : List (List Char)) (key : List Char)
    (value : Value) : Option Progress := do
  let entries ←
    changeAt? .implied (Toml.assign? path key value) progress.header .opened progress.entries
  return { progress with entries }

/-- Reads a header after its opening bracket. -/
def readHeader? (progress : Progress) (text : List Char) : Option (Progress × List Char) := do
  let (element, text) := match text with
    | '[' :: rest => (true, rest)
    | rest => (false, rest)
  let (path, key, rest) ← readKey? (text.length + 1) text
  let rest ← (if element then "]]".toList else "]".toList).isPrefixOf? rest
  let entries ←
    if element then openElement? path key progress.entries
    else openTable? path key progress.entries
  return ({ entries, header := path ++ [key] }, rest)

/-- Reads an entry. -/
def readEntry? (progress : Progress) (text : List Char) : Option (Progress × List Char) := do
  let (path, key, rest) ← readKey? (text.length + 1) text
  let rest ← ['='].isPrefixOf? rest
  let (value, rest) ← readValue? depthLimit (text.length + 1) (skipBlanks rest)
  return (← progress.assign? path key value, rest)

/-- Reads the lines of a document.  Each takes at least one character. -/
def readLines? : (rounds : Nat) → Progress → List Char → Option Entries
  | 0, _, _ => none
  | rounds + 1, progress, text =>
    match skipBlanks text with
    | [] => some progress.entries
    | '[' :: rest => do
      let (progress, rest) ← readHeader? progress rest
      readLines? rounds progress (← endLine? rest)
    | '#' :: rest => do readLines? rounds progress (← endLine? ('#' :: rest))
    | '\n' :: rest | '\r' :: '\n' :: rest => readLines? rounds progress rest
    | rest => do
      let (progress, rest) ← readEntry? progress rest
      readLines? rounds progress (← endLine? rest)

/-- The entries of a document, if it is one. -/
def read? (text : List Char) : Option Entries := readLines? (text.length + 1) {} text

end Stencil.Toml
