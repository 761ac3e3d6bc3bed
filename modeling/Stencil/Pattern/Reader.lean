import Stencil.Pattern.Basic
import Stencil.Text.Search

/-! # Reading patterns

The written form of patterns.  The reader goes through the text once with an
explicit stack of the groups, or bracketed sets, that are open; every round
consumes at least one character.  It knows the properties that there are tables
for in `Stencil.Text`, and bounds patterns by their weight; other engines with
this syntax may know more properties, or other bounds.

* `PatternError` — why a text is no pattern;
* `readEscape` — a backslash and what it stands for;
* `readSet` — a bracketed set with ranges, nested sets and set operators;
* `Pattern.read` — a whole pattern.
-/

namespace Stencil.Pattern

open Stencil.Text (Category Property)

/-- Why a text is no pattern. -/
inductive PatternError where
  | unclosedGroup
  | unopenedGroup
  | nothingToRepeat
  | badRepetition
  | badEscape
  | backreference
  | unknownProperty
  | unclosedSet
  | badRange
  | badFlags
  | badGroupName
  | duplicateGroupName
  | lookaround
  /-- The pattern could match bytes that are no text. -/
  | matchesBytes
  /-- Groups and sets are nested too deeply, or repetitions grow too large. -/
  | tooLarge
  deriving DecidableEq, Repr

/-- The switches that hold at a place of a pattern. -/
structure Flags where
  ignoreCase : Bool := false
  multiLine : Bool := false
  dotMatchesNewline : Bool := false
  swapGreed : Bool := false
  unicode : Bool := true
  carriage : Bool := false
  verbose : Bool := false
  deriving DecidableEq, Repr, Inhabited

/-- Skips blanks and comments where the pattern is written verbosely. -/
def skipBlanks (flags : Flags) (text : List Char) : List Char :=
  if flags.verbose then go false text else text
where
  /-- Skips on, `comment` telling whether a comment is open. -/
  go (comment : Bool) : List Char → List Char
    | [] => []
    | c :: rest =>
      if comment then go (c != '\n') rest
      else if Text.isBlank c then go false rest
      else if c = '#' then go true rest
      else c :: rest

/-! ## Escapes -/

/-- What a backslash sequence stands for. -/
inductive Escaped where
  | char (c : Char)
  /-- A byte given by two hexadecimal digits. -/
  | byte (c : Char)
  | chars (set : CharSet)
  | anchor (anchor : Anchor)
  deriving Repr

/-- Characters with a meaning of their own. -/
def isMeta (c : Char) : Bool := "\\.+*?()|[]\x7b\x7d^$#&-~".toList.contains c

/-- The value of a hexadecimal digit. -/
def hexValue? (c : Char) : Option Nat :=
  if c.isDigit then some (c.toNat - 48)
  else if 'a' ≤ c && c ≤ 'f' then some (c.toNat - 87)
  else if 'A' ≤ c && c ≤ 'F' then some (c.toNat - 55)
  else none

/-- The character with a code point, if it is one. -/
def charOfCode? (code : Nat) : Option Char :=
  if code.isValidChar then some (Char.ofNat code) else none

/-- The character that hexadecimal digits denote. -/
def hexChar? (digits : List Char) : Option Char := do
  let values ← digits.mapM hexValue?
  guard (!values.isEmpty)
  charOfCode? (values.foldl (16 * · + ·) 0)

/-- Reads a code point, given by a fixed number of digits or in braces. -/
def readHex (flags : Flags) (count : Nat) (text : List Char) :
    Except PatternError (Escaped × List Char) :=
  match skipBlanks flags text with
  | '{' :: rest =>
    let digits := rest.takeWhile (· != '}')
    let digits := digits.filter fun c => !flags.verbose || !Text.isBlank c
    match rest.dropWhile (· != '}'), hexChar? digits with
    | _ :: after, some c => .ok (.char c, after)
    | _, _ => .error .badEscape
  | rest =>
    match hexChar? (rest.take count) with
    | some c =>
      if rest.length < count then .error .badEscape
      else .ok (if count = 2 then .byte c else .char c, rest.drop count)
    | none => .error .badEscape

/-- The anchor that a word in braces after `\b` names. -/
def namedBoundary? (ascii : Bool) (name : List Char) : Option Anchor :=
  [("start", Anchor.wordStart ascii), ("end", .wordEnd ascii),
   ("start-half", .wordStartHalf ascii), ("end-half", .wordEndHalf ascii)].lookup
    (String.ofList name)

/-- Reads what follows `\b`: a boundary named in braces, or nothing. -/
def readBoundary (flags : Flags) (text : List Char) : Except PatternError (Escaped × List Char) :=
  let ascii := !flags.unicode
  let plain := (Escaped.anchor (.wordBoundary ascii), text)
  let isNamePart (c : Char) : Bool := c.isAlpha || c == '-'
  match text with
  | '{' :: rest =>
    match skipBlanks flags rest with
    | [] => .error .badRepetition
    | c :: more =>
      if isNamePart c then
        let name := (c :: more).takeWhile isNamePart
        match (c :: more).dropWhile isNamePart, namedBoundary? ascii name with
        | '}' :: after, some anchor => .ok (.anchor anchor, after)
        | _, _ => .error .badEscape
      else .ok plain
  | _ => .ok plain

/-- The standard class of a letter; capitals stand for the complement. -/
def standardClass (flags : Flags) (letter : Char) : Except PatternError Escaped :=
  let inner : CharSet := match letter.toLower with
    | 'd' => if flags.unicode then .digit else .asciiDigit
    | 's' => if flags.unicode then .blank else .asciiBlank
    | _ => if flags.unicode then .word else .asciiWord
  if letter.isLower then .ok (.chars inner)
  else if flags.unicode then .ok (.chars (.complement inner))
  else .error .matchesBytes

/-- The property with a name; a name and a value are divided by `!=`, `:` or `=`. -/
def property? (name : List Char) : Option Property :=
  match ["!=", ":", "="].findSome? fun mark => Text.splitFirst? mark.toList name with
  | some (name, value) => Property.valued? name value
  | none => Property.named? name

/-- Reads a property after `\p`, or after `\P` where it is negated: one letter,
    or a name in braces. -/
def readProperty (flags : Flags) (negated : Bool) (text : List Char) :
    Except PatternError (Escaped × List Char) := do
  let (name, after) ← match skipBlanks flags text with
    | [] => .error .badEscape
    | '{' :: rest =>
      match rest.dropWhile (· != '}') with
      | [] => .error .badEscape
      | _ :: after =>
        let name := rest.takeWhile (· != '}')
        .ok (name.filter fun c => !flags.verbose || !Text.isBlank c, after)
    | letter :: rest => .ok ([letter], rest)
  match property? name with
  | some property =>
    -- case is disregarded before the negation, as in brackets
    let set := if flags.ignoreCase then .anyCase (.having property) else .having property
    if !flags.unicode then .error .unknownProperty
    else return (.chars (if negated then .complement set else set), after)
  | none => .error .unknownProperty

/-- Reads an escape after its backslash. -/
def readEscape (flags : Flags) : List Char → Except PatternError (Escaped × List Char)
  | [] => .error .badEscape
  | c :: rest =>
    let ascii := !flags.unicode
    match c with
    | 'x' => readHex flags 2 rest
    | 'u' => readHex flags 4 rest
    | 'U' => readHex flags 8 rest
    | 'd' | 's' | 'w' | 'D' | 'S' | 'W' => do return (← standardClass flags c, rest)
    | 'p' => readProperty flags false rest
    | 'P' => readProperty flags true rest
    | 'a' => .ok (.char '\x07', rest)
    | 'f' => .ok (.char '\x0c', rest)
    | 't' => .ok (.char '\t', rest)
    | 'n' => .ok (.char '\n', rest)
    | 'r' => .ok (.char '\r', rest)
    | 'v' => .ok (.char '\x0b', rest)
    | 'A' => .ok (.anchor .textStart, rest)
    | 'z' => .ok (.anchor .textEnd, rest)
    | 'b' => readBoundary flags rest
    | 'B' => .ok (.anchor (.noWordBoundary ascii), rest)
    | '<' => .ok (.anchor (.wordStart ascii), rest)
    | '>' => .ok (.anchor (.wordEnd ascii), rest)
    | _ =>
      if c.isDigit then .error .backreference
      else if isMeta c || (c.toNat < 128 && !c.isAlpha) then .ok (.char c, rest)
      else .error .badEscape

/-- The set of one character under the flags. -/
def literalSet (flags : Flags) (c : Char) : CharSet :=
  if flags.ignoreCase then .anyCase (.single c) else .single c

/-! ## Bracketed sets -/

/-- The operators between sets in brackets. -/
inductive SetOperator where
  | intersection
  | difference
  | exclusion
  deriving DecidableEq, Repr

/-- Joins two sets, disregarding case first if asked to. -/
def SetOperator.apply (operator : SetOperator) (flags : Flags) (left right : CharSet) : CharSet :=
  let whole (set : CharSet) : CharSet := if flags.ignoreCase then .anyCase set else set
  match operator with
  | .intersection => .inter (whole left) (whole right)
  | .difference => (whole left).without (whole right)
  | .exclusion => (whole left).exclusive (whole right)

/-- A bracket that is open: whether it is negated, what stood before it, and
    the operand and operator that wait for their right side. -/
structure OpenSet where
  negated : Bool
  before : CharSet
  pending : Option (CharSet × SetOperator)

/-- Completes a waiting operator. -/
def OpenSet.finish (frame : OpenSet) (flags : Flags) (right : CharSet) : CharSet :=
  match frame.pending with
  | some (left, operator) => operator.apply flags left right
  | none => right

/-- Opens a bracket: its negation, and the dashes and the closing bracket that
    count as members at its beginning. -/
def openSet (flags : Flags) (before : CharSet) (text : List Char) :
    OpenSet × CharSet × List Char :=
  let text := skipBlanks flags text
  let (negated, text) := match text with
    | '^' :: rest => (true, skipBlanks flags rest)
    | _ => (false, text)
  let (dashes, text) := skipDashes false text
  match text with
  | ']' :: rest =>
    if dashes then (⟨negated, before, none⟩, .single '-', text)
    else (⟨negated, before, none⟩, .single ']', rest)
  | _ => (⟨negated, before, none⟩, if dashes then .single '-' else .empty, text)
where
  /-- Skips dashes, noting whether there were any. -/
  skipDashes (seen : Bool) : List Char → Bool × List Char
    | '-' :: rest => skipDashes true rest
    | text => (seen, text)

/-- The class written as `[:name:]`, and the text after it. -/
def readNamedClass? (flags : Flags) (text : List Char) : Option (CharSet × List Char) :=
  match text with
  | '[' :: ':' :: rest =>
    let (negated, rest) := match rest with
      | '^' :: more => (true, more)
      | _ => (false, rest)
    match rest.dropWhile (· != ':'), CharSet.named? (rest.takeWhile (· != ':')) with
    | ':' :: ']' :: after, some set =>
      let set := if flags.ignoreCase then .anyCase set else set
      some (if negated then .complement set else set, after)
    | _, _ => none
  | _ => none

/-- Reads one member of a set. -/
def readMember (flags : Flags) : List Char → Except PatternError (Escaped × List Char)
  | [] => .error .unclosedSet
  | '\\' :: rest => readEscape flags rest
  | c :: rest => .ok (.char c, rest)

/-- The character of a member that is one, if it may stand in a set. -/
def memberChar (flags : Flags) (member : Escaped) : Except PatternError Char :=
  match member with
  | .char c | .byte c =>
    if !flags.unicode && 127 < c.toNat then .error .matchesBytes else .ok c
  | _ => .error .badRange

/-- Reads a member of a set or a range of characters. -/
def readRange (flags : Flags) (text : List Char) : Except PatternError (CharSet × List Char) := do
  let (first, rest) ← readMember flags text
  let rest := skipBlanks flags rest
  let isRange := match rest with
    | '-' :: after =>
      let next := (skipBlanks flags after).head?
      next != some ']' && next != some '-'
    | _ => false
  if isRange then
    let (last, rest) ← readMember flags (skipBlanks flags (rest.drop 1))
    let first ← memberChar flags first
    let last ← memberChar flags last
    if last < first then .error .badRange else .ok (.range first last, rest)
  else
    match first with
    | .chars set => .ok (set, rest)
    | .anchor _ => .error .badEscape
    | _ => do return (.single (← memberChar flags first), rest)

/-- Reads a bracketed set after its opening bracket.  `current` holds the
    members read so far and `frames` the brackets that are open. -/
def readSetFrom (flags : Flags) : (rounds : Nat) → (frames : List OpenSet) →
    (current : CharSet) → List Char → Except PatternError (CharSet × List Char)
  | 0, _, _, _ => .error .unclosedSet
  | _, [], _, _ => .error .unclosedSet
  | rounds + 1, frame :: frames, current, text =>
    let goOn (operator : SetOperator) (rest : List Char) :=
      let pending := some (frame.finish flags current, operator)
      readSetFrom flags rounds ({ frame with pending } :: frames) .empty rest
    match skipBlanks flags text with
    | [] => .error .unclosedSet
    | ']' :: rest =>
      let whole := frame.finish flags current
      let whole := if flags.ignoreCase then .anyCase whole else whole
      if frame.negated && !flags.unicode then .error .matchesBytes
      else
        let whole := if frame.negated then .complement whole else whole
        match frames with
        | [] => .ok (whole, rest)
        | _ => readSetFrom flags rounds frames (.union frame.before whole) rest
    | '&' :: '&' :: rest => goOn .intersection rest
    | '-' :: '-' :: rest => goOn .difference rest
    | '~' :: '~' :: rest => goOn .exclusion rest
    | '[' :: rest =>
      match readNamedClass? flags ('[' :: rest) with
      | some (set, after) =>
        readSetFrom flags rounds (frame :: frames) (.union current set) after
      | none =>
        if 250 ≤ frames.length then .error .tooLarge
        else
          let (inner, members, rest) := openSet flags current rest
          readSetFrom flags rounds (inner :: frame :: frames) members rest
    | text => do
      let (set, rest) ← readRange flags text
      readSetFrom flags rounds (frame :: frames) (.union current set) rest

/-- Reads a bracketed set after its opening bracket. -/
def readSet (flags : Flags) (text : List Char) : Except PatternError (CharSet × List Char) :=
  let (frame, members, rest) := openSet flags .empty text
  readSetFrom flags (text.length + 1) [frame] members rest

/-! ## Repetition counts -/

/-- Reads a decimal number with blanks around it. -/
def readCount (text : List Char) : Except PatternError (Nat × List Char) :=
  let text := text.dropWhile Text.isBlank
  let digits := text.takeWhile Char.isDigit
  let value := digits.foldl (fun sum c => 10 * sum + (c.toNat - 48)) 0
  if digits.isEmpty || 4294967295 < value then .error .badRepetition
  else .ok (value, (text.dropWhile Char.isDigit).dropWhile Text.isBlank)

/-- Reads the bounds of a counted repetition after its opening brace. -/
def readBounds (flags : Flags) (text : List Char) :
    Except PatternError ((Nat × Option Nat) × List Char) := do
  let (least, rest) ← readCount (skipBlanks flags text)
  match rest with
  | '}' :: after => return ((least, some least), after)
  | ',' :: more =>
    match skipBlanks flags more with
    | '}' :: after => return ((least, none), after)
    | more =>
      let (most, rest) ← readCount more
      match rest with
      | '}' :: after =>
        if most < least then .error .badRepetition else return ((least, some most), after)
      | _ => .error .badRepetition
  | _ => .error .badRepetition

/-! ## Groups -/

/-- Applies one flag letter. -/
def Flags.set? (flags : Flags) (letter : Char) (value : Bool) : Option Flags :=
  match letter with
  | 'i' => some { flags with ignoreCase := value }
  | 'm' => some { flags with multiLine := value }
  | 's' => some { flags with dotMatchesNewline := value }
  | 'U' => some { flags with swapGreed := value }
  | 'u' => some { flags with unicode := value }
  | 'R' => some { flags with carriage := value }
  | 'x' => some { flags with verbose := value }
  | _ => none

/-- Reads flag letters up to `:` or `)`.  `seen` holds the letters read, and the
    dash after which flags are switched off. -/
def readFlags (flags : Flags) (seen : List Char) : List Char →
    Except PatternError (Flags × List Char × Char × List Char)
  | [] => .error .badFlags
  | c :: rest =>
    if c = ':' || c = ')' then
      if seen.head? == some '-' then .error .badFlags else .ok (flags, seen, c, rest)
    else if seen.contains c then .error .badFlags
    else if c = '-' then readFlags flags (c :: seen) rest
    else
      match flags.set? c (!seen.contains '-') with
      | some flags => readFlags flags (c :: seen) rest
      | none => .error .badFlags

/-- Whether a character may stand in a group name: a letter, behind the first place
    also a number of any script. -/
def isGroupNameChar (first : Bool) (c : Char) : Bool :=
  c == '_' || Property.alphabetic.holds c ||
    (!first && (Category.numbers.any (·.lists c) || ".[]".toList.contains c))

/-- Reads a group name up to its closing angle bracket. -/
def readGroupName (text : List Char) : Except PatternError (List Char × List Char) :=
  let name := text.takeWhile (· != '>')
  match text.dropWhile (· != '>'), name with
  | _ :: rest, first :: others =>
    if isGroupNameChar true first && others.all (isGroupNameChar false) then .ok (name, rest)
    else .error .badGroupName
  | _, _ => .error .badGroupName

/-! ## Whole patterns -/

/-- What stands in a sequence: an expression, or flags, which cannot be
    repeated. -/
abbrev Item := Option Regex

/-- The sequence of items given in reverse. -/
def sequence (items : List Item) : Regex :=
  items.foldl
    (fun (later : Option Regex) item =>
      match item, later with
      | some regex, some later => some (.seq regex later)
      | some regex, none => some regex
      | none, _ => later)
    none |>.getD .empty

/-- A group that is open: the alternatives and the sequence before it, the
    flags to return to, and its number if it captures. -/
structure OpenGroup where
  alternatives : List Regex
  items : List Item
  flags : Flags
  index : Option Nat

/-- How far a pattern has been read. -/
structure Progress where
  flags : Flags
  frames : List OpenGroup
  /-- The finished alternatives of the innermost group, latest first. -/
  alternatives : List Regex
  /-- The sequence being read, latest first. -/
  items : List Item
  /-- The names of the groups opened so far, latest first. -/
  groups : List (Option (List Char))

/-- The alternatives read so far as one expression. -/
def Progress.body (progress : Progress) : Regex :=
  progress.alternatives.foldl (fun later earlier => .alt earlier later)
    (sequence progress.items)

/-- Adds an expression to the sequence. -/
def Progress.push (progress : Progress) (regex : Regex) : Progress :=
  { progress with items := some regex :: progress.items }

/-- Repeats the last expression of the sequence.  An expression that matches
    only the empty text need not be repeated more than once. -/
def Progress.repeatLast (progress : Progress) (least : Nat) (most : Option Nat) (greedy : Bool) :
    Except PatternError Progress :=
  match progress.items with
  | some regex :: items =>
    let greedy := greedy != progress.flags.swapGreed
    let repeated :=
      if regex.isZeroWidth then .repeated regex (min least 1) (some (min (most.getD 1) 1)) greedy
      else .repeated regex least most greedy
    .ok { progress with items := some repeated :: items }
  | _ => .error .nothingToRepeat

/-- Opens a group. -/
def Progress.enter (progress : Progress) (flags : Flags) (index : Option Nat) : Progress :=
  { progress with
    flags
    frames := ⟨progress.alternatives, progress.items, progress.flags, index⟩ :: progress.frames
    alternatives := []
    items := [] }

/-- Opens a group that captures, with its name if it has one. -/
def Progress.enterCapture (progress : Progress) (name : Option (List Char)) : Progress :=
  { progress.enter progress.flags (some (progress.groups.length + 1)) with
    groups := name :: progress.groups }

/-- Closes the innermost group. -/
def Progress.leave (progress : Progress) : Except PatternError Progress :=
  match progress.frames with
  | [] => .error .unopenedGroup
  | frame :: frames =>
    let body := match frame.index with
      | some index => .group index progress.body
      | none => progress.body
    .ok { progress with
          flags := frame.flags
          frames
          alternatives := frame.alternatives
          items := some body :: frame.items }

/-- Reads what follows an opening parenthesis. -/
def readGroup (progress : Progress) (text : List Char) :
    Except PatternError (Progress × List Char) :=
  if 250 ≤ progress.frames.length then .error .tooLarge
  else
    let named (text : List Char) : Except PatternError (Progress × List Char) := do
      let (name, rest) ← readGroupName text
      if progress.groups.contains (some name) then .error .duplicateGroupName
      else .ok (progress.enterCapture (some name), rest)
    match skipBlanks progress.flags text with
    | '?' :: '=' :: _ | '?' :: '!' :: _ | '?' :: '<' :: '=' :: _ | '?' :: '<' :: '!' :: _ =>
      .error .lookaround
    | '?' :: 'P' :: '<' :: rest => named rest
    | '?' :: '<' :: rest => named rest
    | '?' :: rest => do
      let (flags, seen, ending, rest) ← readFlags progress.flags [] rest
      if ending = ':' then .ok (progress.enter flags none, rest)
      else if seen.isEmpty then .error .nothingToRepeat
      else .ok ({ progress with flags, items := none :: progress.items }, rest)
    | rest => .ok (progress.enterCapture none, rest)

/-- The expression of an escape. -/
def escapedRegex (flags : Flags) (escaped : Escaped) : Except PatternError Regex :=
  match escaped with
  | .char c =>
    if flags.ignoreCase && !flags.unicode && 127 < c.toNat then .error .matchesBytes
    else .ok (.set (literalSet flags c))
  | .byte c =>
    if !flags.unicode && 127 < c.toNat then .error .matchesBytes
    else .ok (.set (literalSet flags c))
  | .chars set => .ok (.set set)
  | .anchor anchor => .ok (.anchor anchor)

/-- What a dot matches. -/
def dotSet (flags : Flags) : Except PatternError CharSet :=
  if !flags.unicode then .error .matchesBytes
  else if flags.dotMatchesNewline then .ok (.complement .empty)
  else if flags.carriage then .ok (.complement (.union (.single '\r') (.single '\n')))
  else .ok (.complement (.single '\n'))

/-- Reads whether a repetition is lazy. -/
def readGreed : List Char → Bool × List Char
  | '?' :: rest => (false, rest)
  | text => (true, text)

/-- Reads the next part of a pattern. -/
def readPart (progress : Progress) (c : Char) (rest : List Char) :
    Except PatternError (Progress × List Char) :=
  let flags := progress.flags
  let repeatBy (least : Nat) (most : Option Nat) (rest : List Char) := do
    let (greedy, rest) := readGreed rest
    return (← progress.repeatLast least most greedy, rest)
  match c with
  | '(' => readGroup progress rest
  | ')' => do return (← progress.leave, rest)
  | '|' =>
    .ok ({ progress with
           alternatives := sequence progress.items :: progress.alternatives
           items := [] }, rest)
  | '[' => do
    let (set, rest) ← readSet flags rest
    return (progress.push (.set set), rest)
  | '?' => repeatBy 0 (some 1) rest
  | '*' => repeatBy 0 none rest
  | '+' => repeatBy 1 none rest
  | '{' => do
    if (progress.items.head?.bind id).isNone then .error .nothingToRepeat
    else
      let ((least, most), rest) ← readBounds flags rest
      repeatBy least most (skipBlanks flags rest)
  | '\\' => do
    let (escaped, rest) ← readEscape flags rest
    return (progress.push (← escapedRegex flags escaped), rest)
  | '.' => do return (progress.push (.set (← dotSet flags)), rest)
  | '^' =>
    .ok (progress.push (.anchor (if flags.multiLine then .lineStart flags.carriage
                                 else .textStart)), rest)
  | '$' =>
    .ok (progress.push (.anchor (if flags.multiLine then .lineEnd flags.carriage
                                 else .textEnd)), rest)
  | _ => do return (progress.push (← escapedRegex flags (.char c)), rest)

/-- Reads parts until the text ends. -/
def readParts : (rounds : Nat) → Progress → List Char → Except PatternError Progress
  | 0, progress, _ => .ok progress
  | rounds + 1, progress, text =>
    match skipBlanks progress.flags text with
    | [] => .ok progress
    | c :: rest => do
      let (progress, rest) ← readPart progress c rest
      readParts rounds progress rest

/-- The most work a pattern may stand for. -/
def maxWeight : Nat := 300000

/-- Reads a whole pattern.  Every part takes at least one character, so there
    are no more parts than characters. -/
def read (text : List Char) : Except PatternError Pattern := do
  let progress ← readParts text.length ⟨{}, [], [], [], []⟩ text
  if !progress.frames.isEmpty then .error .unclosedGroup
  else if maxWeight < progress.body.weight then .error .tooLarge
  else return ⟨progress.body, none :: progress.groups.reverse⟩

end Stencil.Pattern
