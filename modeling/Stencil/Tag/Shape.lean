import Stencil.Tag.Kind
import Stencil.Template.Token
import Stencil.Text.CaseFold
import Stencil.Text.Utf8
import Stencil.Text.WordCharacter

/-! # The shapes of built-in tags

Each built-in kind has a shape: fixed text around arguments.  A tag is found
wherever its shape fits first, which need not be at the start of a candidate,
and `TagMatch` keeps the text before it, the fixed parts and the arguments.

* `TagKind.recognise?` — the shape fitted to the start of a text;
* `TagKind.find?` — the leftmost fit inside a text;
* `classify?` — the first ordinary kind that fits anywhere.
-/

namespace Stencil.Tag

open Stencil.Template (isQuote)
open Stencil.Text

/-- One stretch of a recognised tag: fixed text, or a numbered argument. -/
inductive Segment where
  | fixed (text : List Char)
  | argument (index : Nat) (text : List Char)
  deriving DecidableEq, Repr

/-- The text of a segment. -/
def Segment.text : Segment → List Char
  | .fixed text => text
  | .argument _ text => text

/-- A tag found in a text. -/
structure TagMatch where
  kind : TagKind
  before : List Char
  segments : List Segment
  deriving DecidableEq, Repr

/-- The text of the whole tag. -/
def TagMatch.whole (found : TagMatch) : List Char := found.segments.flatMap Segment.text

/-- The text of an argument, if the tag has it. -/
def TagMatch.argument? (found : TagMatch) (index : Nat) : Option (List Char) :=
  found.segments.findSome? fun
    | .fixed _ => none
    | .argument number text => if number = index then some text else none

/-- The text of an argument, empty if the tag lacks it. -/
def TagMatch.argument (found : TagMatch) (index : Nat) : List Char :=
  (found.argument? index).getD []

/-- The byte position and text of an argument inside the text searched;
    argument 0 is the whole tag. -/
def TagMatch.located? (found : TagMatch) (index : Nat) : Option (Nat × List Char) :=
  let start := byteLength found.before
  if index = 0 then some (start, found.whole) else go start found.segments
where
  /-- Looks for the argument among the segments from byte `offset` on. -/
  go (offset : Nat) : List Segment → Option (Nat × List Char)
    | [] => none
    | .fixed text :: rest => go (offset + byteLength text) rest
    | .argument number text :: rest =>
      if number = index then some (offset, text) else go (offset + byteLength text) rest

/-! ## Parts of shapes -/

/-- Reads the expected text, disregarding case if asked to.  Gives what stands
    there and the rest. -/
def fixed? (ignoreCase : Bool) : List Char → List Char → Option (List Char × List Char)
  | [], text => some ([], text)
  | _ :: _, [] => none
  | letter :: expected, c :: text =>
    if sameLetter ignoreCase letter c then
      (fixed? ignoreCase expected text).map fun (body, rest) => (c :: body, rest)
    else none

/-- Reads up to the first `stop` character of the line.  Gives the text before
    it and the rest after it. -/
def lineUpTo? (stop : Char) : List Char → Option (List Char × List Char)
  | [] => none
  | c :: rest =>
    if c = stop then some ([], rest)
    else if c = '\n' then none
    else (lineUpTo? stop rest).map fun (body, after) => (c :: body, after)

/-- A tag that is a keyword in braces. -/
def keyword? (ignoreCase : Bool) (name text : List Char) : Option (List Segment) :=
  (fixed? ignoreCase ('{' :: name ++ ['}']) text).map fun (body, _) => [.fixed body]

/-- A tag that is a keyword with one quoted argument. -/
def quotedArgument? (ignoreCase : Bool) (name text : List Char) : Option (List Segment) := do
  let (opening, text) ← fixed? ignoreCase ('{' :: name ++ "=\"".toList) text
  let (closing, _) ← fixed? ignoreCase ['"', '}'] (text.dropWhile (· != '"'))
  return [.fixed opening, .argument 1 (text.takeWhile (· != '"')), .fixed closing]

/-! ## Loop bindings -/

/-- Reads the bindings of a loop after the first character of the key.  The key
    is as short as possible: it ends before the first arrow with a value whose
    line has a closing brace, or else before the first closing brace. -/
def bindings? : List Char → Option (List Char × Option (List Char))
  | [] => none
  | c :: rest =>
    -- An arrow counts only if its line goes on to a closing brace.
    let value? := do
      let (_, text) ← fixed? false " => $".toList (c :: rest)
      let (value, _) ← lineUpTo? '}' text
      return '$' :: value
    match value? with
    | some value => some ([], some value)
    | none =>
      if c = '}' then some ([], none)
      else if c = '\n' then none
      else (bindings? rest).map fun (key, value?) => (c :: key, value?)

/-- What may stand after the collection of a loop. -/
def loopEnd? (ignoreCase : Bool) (text : List Char) : Option (List Segment) :=
  let bound : Option (List Segment) := do
    let (joint, text) ← fixed? ignoreCase " as ".toList text
    let (_, text) ← fixed? ignoreCase "$".toList text
    let (key, value?) ← bindings? text
    match value? with
    | none => return [.fixed joint, .argument 2 ('$' :: key), .fixed ['}']]
    | some value =>
      return [.fixed joint, .argument 2 ('$' :: key), .fixed " => ".toList, .argument 3 value,
        .fixed ['}']]
  bound.orElse fun _ =>
    (fixed? ignoreCase ['}'] text).map fun (body, _) => [.fixed body]

/-- A loop: its collection, and the names for key and value if given. -/
def loop? (ignoreCase : Bool) (text : List Char) : Option (List Segment) := do
  let (opening, text) ← fixed? ignoreCase ('{' :: TagKind.loopOpen.name ++ "=\"".toList) text
  let (quote, after) ← fixed? ignoreCase "\"".toList (text.dropWhile (· != '"'))
  let ending ← loopEnd? ignoreCase after
  return .fixed opening :: .argument 1 (text.takeWhile (· != '"')) :: .fixed quote :: ending

/-! ## Function calls -/

/-- A letter of a function name.  When case is disregarded the letters that
    fold into ASCII count too. -/
def isFunctionLetter (ignoreCase : Bool) (c : Char) : Bool :=
  isNameStart (if ignoreCase then fold c else c)

/-- A character that a function name goes on with. -/
def isFunctionChar (ignoreCase : Bool) (c : Char) : Bool :=
  isFunctionLetter ignoreCase c || c.isDigit || c == ':' || c == '\\'

/-- Reads the arguments of a call after the opening parenthesis, up to the last
    parenthesis on the line that closes the tag.  Gives them with that
    parenthesis. -/
def callEnd? : List Char → Option (List Char)
  | [] => none
  | c :: rest =>
    -- The last parenthesis on the line wins, so the rest is tried first.
    match (if c = '\n' then none else callEnd? rest) with
    | some body => some (c :: body)
    | none => if c = ')' && ['"', '}'].isPrefixOf rest then some [c] else none

/-- A call: the function's name, and the arguments in parentheses if given. -/
def functionCall? (ignoreCase : Bool) (text : List Char) : Option (List Segment) := do
  let (opening, text) ← fixed? ignoreCase ('{' :: TagKind.functionCall.name ++ "=\"".toList) text
  let slashes := text.takeWhile (· == '\\')
  let text := text.dropWhile (· == '\\')
  guard ((text.head?.map (isFunctionLetter ignoreCase)).getD false)
  let name := text.takeWhile (isFunctionChar ignoreCase)
  let text := text.dropWhile (isFunctionChar ignoreCase)
  let segments : List Segment := [.fixed opening, .argument 1 (slashes ++ name)]
  let withArguments : Option (List Segment) := do
    let (parenthesis, text) ← fixed? false "(".toList text
    let arguments ← callEnd? text
    return segments ++ [.argument 2 (parenthesis ++ arguments), .fixed ['"', '}']]
  withArguments.orElse fun _ =>
    (fixed? ignoreCase ['"', '}'] text).map fun (body, _) => segments ++ [.fixed body]

/-! ## Ternaries, variables and constants -/

/-- A condition with two branches, all three on one line apart from the
    condition, which may go over several. -/
def ternary? : List Char → Option (List Segment)
  | '{' :: first :: text =>
    if first = '\n' then none
    else do
      let inCondition (c : Char) : Bool := c != '{' && c != '?' && c != '}'
      let more := text.takeWhile inCondition
      let (question, text) ← fixed? false "?".toList (text.dropWhile inCondition)
      let (ifTrue, text) ← lineUpTo? ':' text
      let (ifFalse, _) ← lineUpTo? '}' text
      return [.fixed ['{'], .argument 1 (first :: more), .fixed question, .argument 2 ifTrue,
        .fixed [':'], .argument 3 ifFalse, .fixed ['}']]
  | _ => none

/-- Whether a string opened by `quote` is closed in the text and has a closing
    brace somewhere after it. -/
def closesBeforeBrace (quote : Char) (text : List Char) : Bool :=
  match splitFirst? [quote] text with
  | some (_, after) => after.contains '}'
  | none => false

/-- Reads up to the closing brace, passing over quoted strings as long as a
    brace still follows them.  `quote` is the quote that is open, if one is. -/
def closeOutput? : Option Char → List Char → Option (List Char)
  | _, [] => none
  | some quote, c :: rest =>
    (closeOutput? (if c = quote then none else some quote) rest).map (c :: ·)
  | none, c :: rest =>
    if c = '}' then some [c]
    else
      -- A quote that nothing closes is a character like any other.
      let next := if isQuote c && closesBeforeBrace c rest then some c else none
      (closeOutput? next rest).map (c :: ·)

/-- A tag in braces that begins with `sigil` and has at least one more
    character. -/
def output? (sigil : Char) : List Char → Option (List Segment)
  | '{' :: mark :: first :: rest =>
    if mark = sigil && first != '}' then
      (closeOutput? none rest).map fun body => [.fixed ('{' :: mark :: first :: body)]
    else none
  | _ => none

/-! ## All shapes -/

/-- Fits the shape of a kind to the start of a text. -/
def TagKind.recognise? (ignoreCase : Bool) (kind : TagKind) (text : List Char) :
    Option (List Segment) :=
  match kind with
  | .ignoreClose =>
    (keyword? ignoreCase kind.name text).orElse fun _ =>
      (fixed? ignoreCase ['*', '}'] text).map fun (body, _) => [.fixed body]
  | .ignoreOpen =>
    (keyword? ignoreCase kind.name text).orElse fun _ =>
      (fixed? ignoreCase ['{', '*'] text).map fun (body, _) => [.fixed body]
  | .inclusion | .ifOpen | .elseIf | .autoescapeOpen => quotedArgument? ignoreCase kind.name text
  | .loopOpen => loop? ignoreCase text
  | .functionCall => functionCall? ignoreCase text
  | .ternary => ternary? text
  | .variableTag => output? '$' text
  | .constantTag => output? '#' text
  | _ => keyword? ignoreCase kind.name text

/-- The leftmost fit of a recogniser: the text before it and its segments. -/
def findFirst? (recognise? : List Char → Option (List Segment)) :
    List Char → Option (List Char × List Segment)
  | [] => none
  | c :: rest =>
    match recognise? (c :: rest) with
    | some segments => some ([], segments)
    | none => (findFirst? recognise? rest).map fun (before, segments) => (c :: before, segments)

/-- The leftmost tag of a kind in a text. -/
def TagKind.find? (ignoreCase : Bool) (kind : TagKind) (text : List Char) : Option TagMatch :=
  (findFirst? (kind.recognise? ignoreCase) text).map fun (before, segments) =>
    ⟨kind, before, segments⟩

/-- Whether a tag of the kind occurs anywhere in a text. -/
def TagKind.occursIn (ignoreCase : Bool) (kind : TagKind) (text : List Char) : Bool :=
  (kind.find? ignoreCase text).isSome

/-- The first ordinary kind that occurs in a text, with its leftmost tag. -/
def classify? (ignoreCase : Bool) (text : List Char) : Option TagMatch :=
  TagKind.ordinary.findSome? fun kind => kind.find? ignoreCase text

end Stencil.Tag
