import Stencil.Json.Basic
import Stencil.Text.Utf8

/-! # Reading JSON

A reader for JSON without a limit on nesting.  Numbers must be whole.  String literals
hold no control characters as they are, and numbers no zeros in front.

* `readString?` — a string literal after its opening quote;
* `readValue?` — a value at the start of a text, and the rest;
* `Json.read?` — a text that is one value.
-/

namespace Stencil.Json

/-- Skips the blanks that may stand between tokens. -/
def skipBlanks (text : List Char) : List Char :=
  text.dropWhile fun c => c == ' ' || c == '\n' || c == '\r' || c == '\t'

/-- The value of a hexadecimal digit. -/
def hexValue? (c : Char) : Option Nat :=
  if c.isDigit then some (c.toNat - 48)
  else if 'a' ≤ c && c ≤ 'f' then some (c.toNat - 87)
  else if 'A' ≤ c && c ≤ 'F' then some (c.toNat - 55)
  else none

/-- The number that four hexadecimal digits denote. -/
def hexUnit? (a b c d : Char) : Option Nat := do
  return 4096 * (← hexValue? a) + 256 * (← hexValue? b) + 16 * (← hexValue? c) + (← hexValue? d)

/-- The character that a pair of surrogate units denotes. -/
def joinSurrogates? (high low : Nat) : Option Char :=
  if 0xD800 ≤ high && high < 0xDC00 && 0xDC00 ≤ low && low < 0xE000 then
    some (Char.ofNat (0x10000 + 1024 * (high - 0xD800) + (low - 0xDC00)))
  else none

/-- The character that an escape letter denotes. -/
def simpleEscape? (c : Char) : Option Char :=
  [('"', '"'), ('\\', '\\'), ('/', '/'), ('b', '\x08'), ('f', '\x0c'), ('n', '\n'), ('r', '\r'),
   ('t', '\t')].lookup c

/-- Reads a string literal after its opening quote.  Control characters can only be
    given by escapes. -/
def readString? : List Char → Option (List Char × List Char)
  | [] => none
  | '"' :: rest => some ([], rest)
  | '\\' :: 'u' :: a :: b :: c :: d :: rest => do
    let unit ← hexUnit? a b c d
    if unit.isValidChar then
      let (text, after) ← readString? rest
      return (Char.ofNat unit :: text, after)
    else
      match rest with
      | '\\' :: 'u' :: e :: f :: g :: h :: rest => do
        let joined ← joinSurrogates? unit (← hexUnit? e f g h)
        let (text, after) ← readString? rest
        return (joined :: text, after)
      | _ => none
  | '\\' :: c :: rest => do
    let escaped ← simpleEscape? c
    let (text, after) ← readString? rest
    return (escaped :: text, after)
  | c :: rest =>
    if c.toNat < 32 then none
    else do
      let (text, after) ← readString? rest
      return (c :: text, after)

/-- Reads a run of digits as a number, which is a zero or does not begin with one. -/
def readDigits? (text : List Char) : Option (Nat × List Char) :=
  let digits := text.takeWhile Char.isDigit
  if digits.isEmpty || (digits.head? == some '0' && digits.length != 1) then none
  else
    some (digits.foldl (fun sum c => 10 * sum + (c.toNat - 48)) 0, text.dropWhile Char.isDigit)

/-- Reads a word, giving a value for it. -/
def readWord? (word : List Char) (value : Json) (text : List Char) : Option (Json × List Char) :=
  (word.isPrefixOf? text).map fun rest => (value, rest)

mutual

/-- Reads a value.  Every nested read starts at least one character later, so
    `rounds` need not exceed the length of the text. -/
def readValue? : (rounds : Nat) → List Char → Option (Json × List Char)
  | 0, _ => none
  | rounds + 1, text =>
    match skipBlanks text with
    | '"' :: rest => (readString? rest).map fun (text, after) => (.string text, after)
    | '[' :: rest =>
      match skipBlanks rest with
      | ']' :: after => some (.array [], after)
      | _ => (readItems? rounds rest).map fun (items, after) => (.array items, after)
    | '{' :: rest =>
      match skipBlanks rest with
      | '}' :: after => some (.object [], after)
      | _ => (readMembers? rounds rest).map fun (members, after) => (.object members, after)
    | '-' :: rest => (readDigits? rest).map fun (n, after) => (.number (-(n : Int)), after)
    | 'n' :: rest => readWord? "ull".toList .null rest
    | 't' :: rest => readWord? "rue".toList (.bool true) rest
    | 'f' :: rest => readWord? "alse".toList (.bool false) rest
    | rest => (readDigits? rest).map fun (n, after) => (.number n, after)

/-- Reads the items of an array up to its closing bracket. -/
def readItems? : (rounds : Nat) → List Char → Option (List Json × List Char)
  | 0, _ => none
  | rounds + 1, text => do
    let (item, rest) ← readValue? rounds text
    match skipBlanks rest with
    | ']' :: after => return ([item], after)
    | ',' :: after => do
      let (items, after) ← readItems? rounds after
      return (item :: items, after)
    | _ => none

/-- Reads the members of an object up to its closing brace. -/
def readMembers? : (rounds : Nat) → List Char → Option (List (List Char × Json) × List Char)
  | 0, _ => none
  | rounds + 1, text =>
    match skipBlanks text with
    | '"' :: rest => do
      let (name, rest) ← readString? rest
      match skipBlanks rest with
      | ':' :: rest => do
        let (value, rest) ← readValue? rounds rest
        match skipBlanks rest with
        | '}' :: after => return ([(name, value)], after)
        | ',' :: after => do
          let (members, after) ← readMembers? rounds after
          return ((name, value) :: members, after)
        | _ => none
      | _ => none
    | _ => none

end

/-- The value a text is, with nothing but blanks around it. -/
def read? (text : List Char) : Option Json := do
  let (value, rest) ← readValue? (text.length + 1) text
  guard (skipBlanks rest).isEmpty
  return value

end Stencil.Json
