import Mathlib.Data.List.TakeWhile
import Stencil.Tag.Shape

/-! # What shapes fit

A shape that fits takes some text off the front of what it is tried on.  All
ordinary shapes but the old opening of a comment take text in braces.

* `fixed?_spec` — expected text, letter by letter;
* `Braced` — a fit to text in braces;
* `recognise?_braced` — every shape of an ordinary tag is one;
* `classify?_spec` — where in a text a tag was found.
-/

namespace Stencil.Tag

open Stencil.Text

variable {ignoreCase : Bool}

/-! ## Parts of shapes -/

/-- What a character is compared by. -/
def letterOf (ignoreCase : Bool) (c : Char) : Char := if ignoreCase then fold c else c

theorem sameLetter_iff {letter c : Char} :
    sameLetter ignoreCase letter c = true ↔ letterOf ignoreCase c = letterOf ignoreCase letter := by
  cases ignoreCase with
  | false => exact beq_iff_eq.trans eq_comm
  | true => exact beq_iff_eq.trans eq_comm

@[simp] theorem map_letterOf_false (text : List Char) : text.map (letterOf false) = text :=
  List.map_id text

/-- The symbols that shapes have besides letters. -/
def symbols : List Char := ['{', '}', '"', '\'', '$', '?', '(', '*']

/-- A symbol is no letter and stands for itself. -/
theorem plain_of_mem_symbols {symbol : Char} (listed : symbol ∈ symbols) :
    fold symbol = symbol ∧ symbol.toNat < 128 ∧ symbol.isLower = false := by
  have plain : symbols.all (fun symbol =>
      fold symbol = symbol ∧ symbol.toNat < 128 ∧ symbol.isLower = false) = true := by decide
  simpa using List.all_eq_true.1 plain symbol listed

@[simp] theorem letterOf_symbol {symbol : Char} (listed : symbol ∈ symbols) :
    letterOf ignoreCase symbol = symbol := by
  cases ignoreCase with
  | false => rfl
  | true => exact (plain_of_mem_symbols listed).1

theorem eq_of_letterOf {c symbol : Char} (listed : symbol ∈ symbols)
    (same : letterOf ignoreCase c = symbol) : c = symbol := by
  obtain ⟨-, ascii, noLetter⟩ := plain_of_mem_symbols listed
  cases ignoreCase with
  | false => exact same
  | true => exact eq_of_fold same ascii noLetter

theorem fixed?_spec {expected text body rest : List Char}
    (found : fixed? ignoreCase expected text = some (body, rest)) :
    body ++ rest = text ∧ body.map (letterOf ignoreCase) = expected.map (letterOf ignoreCase) := by
  induction expected generalizing text body with
  | nil => simp_all [fixed?]
  | cons letter expected ih =>
    cases text with
    | nil => cases found
    | cons c text =>
      by_cases same : sameLetter ignoreCase letter c = true
      · simp only [fixed?, same, if_true, Option.map_eq_some_iff, Prod.mk.injEq] at found
        obtain ⟨⟨body, rest⟩, found, rfl, rfl⟩ := found
        obtain ⟨split, letters⟩ := ih found
        simp [split, letters, sameLetter_iff.1 same]
      · simp [fixed?, same] at found

/-- A text in symbols is the only one with its letters. -/
theorem eq_of_map_letterOf {body expected : List Char} (plain : expected ⊆ symbols)
    (letters : body.map (letterOf ignoreCase) = expected.map (letterOf ignoreCase)) :
    body = expected := by
  induction expected generalizing body with
  | nil => simpa using letters
  | cons symbol expected ih =>
    obtain ⟨c, others, rfl, letter, letters⟩ := List.map_eq_cons_iff.1 letters
    obtain ⟨listed, later⟩ := List.cons_subset.1 plain
    rw [letterOf_symbol listed] at letter
    rw [eq_of_letterOf listed letter, ih later letters]

/-- Symbols are read as they stand. -/
theorem fixed?_symbols {expected text body rest : List Char}
    (plain : expected ⊆ symbols)
    (found : fixed? ignoreCase expected text = some (body, rest)) :
    body = expected ∧ expected ++ rest = text := by
  obtain ⟨split, letters⟩ := fixed?_spec found
  have same : body = expected := eq_of_map_letterOf plain letters
  exact ⟨same, same ▸ split⟩

theorem lineUpTo?_spec {stop : Char} {text body rest : List Char}
    (found : lineUpTo? stop text = some (body, rest)) : text = body ++ stop :: rest := by
  fun_induction lineUpTo? stop text generalizing body with
  | case1 => cases found
  | case2 rest => simp_all
  | case3 => cases found
  | case4 c rest _ _ ih =>
    simp only [Option.map_eq_some_iff, Prod.mk.injEq] at found
    obtain ⟨⟨inner, after⟩, found, rfl, rfl⟩ := found
    simp [ih found]

/-- What stands before the first double quote, and the rest. -/
theorem upToQuote_spec (text : List Char) :
    ∃ before, text.takeWhile (· != '"') = before ∧ '"' ∉ before ∧
      text = before ++ text.dropWhile (· != '"') := by
  refine ⟨_, rfl, fun inside => ?_, List.takeWhile_append_dropWhile.symm⟩
  simpa using List.mem_takeWhile_imp inside

/-! ## Fits -/

/-- The text that segments were cut from. -/
def textOf (segments : List Segment) : List Char := segments.flatMap Segment.text

@[simp] theorem textOf_nil : textOf [] = [] := rfl

@[simp] theorem textOf_cons (segment : Segment) (segments : List Segment) :
    textOf (segment :: segments) = segment.text ++ textOf segments := rfl

@[simp] theorem textOf_append (left right : List Segment) :
    textOf (left ++ right) = textOf left ++ textOf right :=
  List.flatMap_append

/-- Segments that end at a closing brace, with which a text begins. -/
def Closed (text : List Char) (segments : List Segment) : Prop :=
  ∃ inner after, textOf segments = inner ++ ['}'] ∧ text = textOf segments ++ after

/-- Segments of a text in braces, with which a text begins. -/
def Braced (text : List Char) (segments : List Segment) : Prop :=
  (∃ rest, textOf segments = '{' :: rest) ∧ Closed text segments

theorem Braced.between {text : List Char} {segments : List Segment}
    (braced : Braced text segments) :
    ∃ inner after, textOf segments = '{' :: (inner ++ ['}']) ∧ text = textOf segments ++ after := by
  obtain ⟨⟨rest, opens⟩, inner, after, closes, split⟩ := braced
  rw [closes] at opens
  cases inner with
  | nil => simp at opens
  | cons c inner =>
    obtain ⟨rfl, -⟩ := List.cons.inj opens
    exact ⟨inner, after, closes, split⟩

/-- The fixed text at the beginning of a tag. -/
theorem opening_spec {name text body rest : List Char}
    (found : fixed? ignoreCase ('{' :: name) text = some (body, rest)) :
    ∃ letters, body = '{' :: letters ∧ text = body ++ rest ∧
      letters.map (letterOf ignoreCase) = name.map (letterOf ignoreCase) := by
  obtain ⟨split, letters⟩ := fixed?_spec found
  obtain ⟨c, others, rfl, brace, same⟩ := List.map_eq_cons_iff.1 letters
  have plain : '{' ∈ symbols := by decide
  obtain rfl := eq_of_letterOf plain (brace.trans (letterOf_symbol plain))
  exact ⟨others, rfl, split.symm, same⟩

theorem keyword?_spec {name text : List Char} {segments : List Segment}
    (found : keyword? ignoreCase name text = some segments) :
    ∃ letters, textOf segments = '{' :: (letters ++ ['}']) ∧
      letters.map (letterOf ignoreCase) = name.map (letterOf ignoreCase) ∧
      Braced text segments := by
  simp only [keyword?, List.cons_append, Option.map_eq_some_iff] at found
  obtain ⟨⟨body, rest⟩, fits, rfl⟩ := found
  obtain ⟨all, rfl, split, same⟩ := opening_spec fits
  rw [List.map_append] at same
  obtain ⟨letters, last, rfl, letters_same, last_same⟩ := List.map_eq_append_iff.1 same
  obtain ⟨c, nothing, rfl, brace, none_same⟩ := List.map_eq_cons_iff.1 last_same
  obtain rfl := List.map_eq_nil_iff.1 none_same
  have plain : '}' ∈ symbols := by decide
  obtain rfl := eq_of_letterOf plain (brace.trans (letterOf_symbol plain))
  refine ⟨letters, by simp [Segment.text], letters_same, ⟨letters ++ ['}'], ?_⟩, ?_⟩
  · simp [Segment.text]
  · exact ⟨'{' :: letters, rest, by simp [Segment.text], by simp [Segment.text, split]⟩

theorem quotedArgument?_spec {name text : List Char} {segments : List Segment}
    (found : quotedArgument? ignoreCase name text = some segments) :
    ∃ letters argument, textOf segments = '{' :: (letters ++ argument ++ ['"', '}']) ∧
      letters.map (letterOf ignoreCase) = (name ++ "=\"".toList).map (letterOf ignoreCase) ∧
      '"' ∉ argument ∧ Braced text segments := by
  simp only [quotedArgument?, List.cons_append, Option.bind_eq_bind, Option.bind_eq_some_iff,
    Prod.exists, Option.pure_def, Option.some.injEq] at found
  obtain ⟨body, rest, fits, closing, after, ends, rfl⟩ := found
  obtain ⟨letters, rfl, split, same⟩ := opening_spec fits
  obtain ⟨rfl, tail⟩ := fixed?_symbols (by decide) ends
  obtain ⟨argument, argument_eq, outside, parts⟩ := upToQuote_spec rest
  rw [argument_eq]
  refine ⟨letters, argument, by simp [Segment.text], same, outside, ⟨_, rfl⟩, ?_⟩
  refine ⟨'{' :: (letters ++ argument ++ ['"']), after, by simp [Segment.text], ?_⟩
  rw [split, parts, ← tail]
  simp [Segment.text]

/-! ## Loops -/

theorem bindings?_spec {text key : List Char} {value? : Option (List Char)}
    (found : bindings? text = some (key, value?)) :
    ∃ after, text = key ++ (value?.map (" => ".toList ++ ·)).getD [] ++ '}' :: after := by
  induction text generalizing key with
  | nil => cases found
  | cons c rest ih =>
    simp only [bindings?] at found
    split at found
    · rename_i value bound
      simp only [Option.some.injEq, Prod.mk.injEq] at found
      obtain ⟨rfl, rfl⟩ := found
      simp only [Option.bind_eq_bind, Option.bind_eq_some_iff, Prod.exists, Option.pure_def,
        Option.some.injEq] at bound
      obtain ⟨arrow, text, fits, body, after, line, rfl⟩ := bound
      obtain ⟨split, same⟩ := fixed?_spec fits
      have arrow_eq : arrow = " => $".toList := by simpa [letterOf] using same
      refine ⟨after, ?_⟩
      rw [← split, lineUpTo?_spec line, arrow_eq]
      rfl
    · split at found
      · rename_i brace
        simp only [Option.some.injEq, Prod.mk.injEq] at found
        obtain ⟨rfl, rfl⟩ := found
        exact ⟨rest, by simp [brace]⟩
      · split at found
        · cases found
        · simp only [Option.map_eq_some_iff, Prod.mk.injEq, Prod.exists] at found
          obtain ⟨key, value?, found, rfl, rfl⟩ := found
          obtain ⟨after, same⟩ := ih found
          exact ⟨after, by rw [same]; rfl⟩

theorem loopEnd?_closed {text : List Char} {segments : List Segment}
    (found : loopEnd? ignoreCase text = some segments) : Closed text segments := by
  simp only [loopEnd?, Option.orElse_eq_or, Option.or_eq_some_iff, Option.map_eq_some_iff,
    Option.bind_eq_bind, Option.bind_eq_some_iff, Prod.exists, Option.pure_def] at found
  rcases found with ⟨joint, rest, fits, dollar, names, sigil, key, value?, bound, ends⟩ |
    ⟨-, body, rest, fits, rfl⟩
  · obtain ⟨split, -⟩ := fixed?_spec fits
    obtain ⟨-, tail⟩ := fixed?_symbols (by decide) sigil
    obtain ⟨after, named⟩ := bindings?_spec bound
    cases value? with
    | none =>
      obtain rfl := Option.some.inj ends
      refine ⟨joint ++ '$' :: key, after, by simp [Segment.text], ?_⟩
      rw [← split, ← tail, named]
      simp [Segment.text]
    | some value =>
      obtain rfl := Option.some.inj ends
      refine ⟨joint ++ '$' :: key ++ " => ".toList ++ value, after, by simp [Segment.text], ?_⟩
      rw [← split, ← tail, named]
      simp [Segment.text]
  · obtain ⟨rfl, split⟩ := fixed?_symbols (by decide) fits
    exact ⟨[], rest, by simp [Segment.text], by simp [Segment.text, ← split]⟩

theorem loop?_braced {text : List Char} {segments : List Segment}
    (found : loop? ignoreCase text = some segments) : Braced text segments := by
  simp only [loop?, Option.bind_eq_bind, Option.bind_eq_some_iff, Prod.exists, Option.pure_def,
    Option.some.injEq, List.cons_append] at found
  obtain ⟨body, rest, fits, quote, after, closing, ending, ends, rfl⟩ := found
  obtain ⟨letters, rfl, split, -⟩ := opening_spec fits
  obtain ⟨rfl, tail⟩ := fixed?_symbols (by decide) closing
  obtain ⟨argument, argument_eq, -, parts⟩ := upToQuote_spec rest
  obtain ⟨inner, later, ending_eq, rfl⟩ := loopEnd?_closed ends
  rw [argument_eq]
  refine ⟨⟨_, rfl⟩, '{' :: (letters ++ argument ++ '"' :: inner), later, ?_, ?_⟩
  · simp [Segment.text, ending_eq]
  · rw [split, parts, ← tail]
    simp [Segment.text]

/-! ## Calls -/

/-- The arguments of a call end with a parenthesis, behind which the tag ends. -/
theorem callEnd?_spec {text body : List Char} (found : callEnd? text = some body) :
    ∃ inner after, body = inner ++ [')'] ∧ text = body ++ '"' :: '}' :: after := by
  induction text generalizing body with
  | nil => cases found
  | cons c rest ih =>
    simp only [callEnd?] at found
    split at found
    · rename_i longer later
      obtain rfl := Option.some.inj found
      obtain ⟨-, later⟩ := Option.ite_none_left_eq_some.1 later
      obtain ⟨inner, after, rfl, same⟩ := ih later
      exact ⟨c :: inner, after, rfl, by rw [same]; rfl⟩
    · obtain ⟨closes, same⟩ := Option.ite_none_right_eq_some.1 found
      simp only [Bool.and_eq_true, decide_eq_true_eq, List.isPrefixOf_iff_prefix] at closes
      obtain ⟨rfl, after, ends⟩ := closes
      obtain rfl := Option.some.inj same
      exact ⟨[], after, rfl, by rw [← ends]; rfl⟩

theorem functionCall?_braced {text : List Char} {segments : List Segment}
    (found : functionCall? ignoreCase text = some segments) : Braced text segments := by
  obtain ⟨⟨body, rest⟩, fits, found⟩ := Option.bind_eq_some_iff.1 found
  obtain ⟨-, -, ends⟩ := Option.bind_eq_some_iff.1 found
  simp only [Option.bind_eq_bind, Option.bind_eq_some_iff, Prod.exists, Option.pure_def,
    Option.orElse_eq_or, Option.or_eq_some_iff, Option.map_eq_some_iff, Option.some.injEq] at ends
  obtain ⟨letters, rfl, split, -⟩ := opening_spec fits
  have slashes := List.takeWhile_append_dropWhile (p := (· == '\\')) (l := rest)
  have name := List.takeWhile_append_dropWhile (p := isFunctionChar ignoreCase)
    (l := rest.dropWhile (· == '\\'))
  generalize rest.takeWhile (· == '\\') = backslashes at *
  generalize rest.dropWhile (· == '\\') = named at *
  generalize named.takeWhile (isFunctionChar ignoreCase) = function at *
  generalize named.dropWhile (isFunctionChar ignoreCase) = called at *
  rcases ends with ⟨parenthesis, inner, opens, arguments, closes, rfl⟩ | ⟨-, body, after, ends, rfl⟩
  · obtain ⟨rfl, tail⟩ := fixed?_symbols (by decide) opens
    obtain ⟨-, after, -, same⟩ := callEnd?_spec closes
    refine ⟨⟨_, rfl⟩, '{' :: (letters ++ backslashes ++ function ++ '(' :: arguments ++ ['"']), after,
      by simp [Segment.text], ?_⟩
    rw [split, ← slashes, ← name, ← tail, same]
    simp [Segment.text]
  · obtain ⟨rfl, tail⟩ := fixed?_symbols (by decide) ends
    refine ⟨⟨_, rfl⟩, '{' :: (letters ++ backslashes ++ function ++ ['"']), after,
      by simp [Segment.text], ?_⟩
    rw [split, ← slashes, ← name, ← tail]
    simp [Segment.text]

/-! ## Ternaries, variables and constants -/

theorem ternary?_braced {text : List Char} {segments : List Segment}
    (found : ternary? text = some segments) : Braced text segments := by
  unfold ternary? at found
  split at found
  · rename_i first text
    split at found
    · cases found
    · simp only [Option.bind_eq_bind, Option.bind_eq_some_iff, Prod.exists, Option.pure_def,
        Option.some.injEq] at found
      obtain ⟨mark, rest, question, ifTrue, between, yes, ifFalse, after, no, rfl⟩ := found
      have condition := List.takeWhile_append_dropWhile
        (p := fun c => c != '{' && c != '?' && c != '}') (l := text)
      generalize text.takeWhile (fun c => c != '{' && c != '?' && c != '}') = more at *
      obtain ⟨rfl, tail⟩ := fixed?_symbols (by decide) question
      refine ⟨⟨_, rfl⟩, '{' :: first :: (more ++ '?' :: ifTrue ++ ':' :: ifFalse), after,
        by simp [Segment.text], ?_⟩
      rw [← condition, ← tail, lineUpTo?_spec yes, lineUpTo?_spec no]
      simp [Segment.text]
  · cases found

theorem closeOutput?_spec {quote : Option Char} {text body : List Char}
    (found : closeOutput? quote text = some body) :
    ∃ inner after, body = inner ++ ['}'] ∧ text = body ++ after := by
  induction text generalizing quote body with
  | nil => cases quote <;> cases found
  | cons c rest ih =>
    have later {next : Option Char}
        (deeper : (closeOutput? next rest).map (c :: ·) = some body) :
        ∃ inner after, body = inner ++ ['}'] ∧ c :: rest = body ++ after := by
      obtain ⟨tail, closes, rfl⟩ := Option.map_eq_some_iff.1 deeper
      obtain ⟨inner, after, rfl, split⟩ := ih closes
      exact ⟨c :: inner, after, rfl, by rw [split]; rfl⟩
    cases quote with
    | some quote => exact later found
    | none =>
      simp only [closeOutput?] at found
      split at found
      · rename_i brace
        obtain rfl := Option.some.inj found
        exact ⟨[], rest, by simp [brace], rfl⟩
      · exact later found

theorem output?_braced {sigil : Char} {text : List Char} {segments : List Segment}
    (found : output? sigil text = some segments) : Braced text segments := by
  unfold output? at found
  split at found
  · rename_i mark first rest
    split at found
    · obtain ⟨body, closes, rfl⟩ := Option.map_eq_some_iff.1 found
      obtain ⟨inner, after, rfl, split⟩ := closeOutput?_spec closes
      refine ⟨⟨_, rfl⟩, '{' :: mark :: first :: inner, after, by simp [Segment.text], ?_⟩
      simp [Segment.text, split]
    · cases found
  · cases found

/-! ## All shapes -/

/-- The kinds whose tags are text in braces. -/
def TagKind.inBraces (kind : TagKind) : Bool := kind != .ignoreOpen && kind != .ignoreClose

theorem TagKind.recognise?_braced {kind : TagKind} {text : List Char} {segments : List Segment}
    (plain : kind.inBraces = true) (found : kind.recognise? ignoreCase text = some segments) :
    Braced text segments := by
  have keyword {name : List Char} (found : keyword? ignoreCase name text = some segments) :
      Braced text segments := by
    obtain ⟨_, -, -, braced⟩ := keyword?_spec found
    exact braced
  have quoted {name : List Char} (found : quotedArgument? ignoreCase name text = some segments) :
      Braced text segments := by
    obtain ⟨_, _, -, -, -, braced⟩ := quotedArgument?_spec found
    exact braced
  cases kind with
  | ignoreClose | ignoreOpen => cases plain
  | inclusion | ifOpen | elseIf | autoescapeOpen => exact quoted found
  | loopOpen => exact loop?_braced found
  | functionCall => exact functionCall?_braced found
  | ternary => exact ternary?_braced found
  | variableTag | constantTag => exact output?_braced found
  | _ => exact keyword found

theorem findFirst?_spec {recognise? : List Char → Option (List Segment)} {text before : List Char}
    {segments : List Segment} (found : findFirst? recognise? text = some (before, segments)) :
    ∃ rest, text = before ++ rest ∧ recognise? rest = some segments := by
  induction text generalizing before with
  | nil => cases found
  | cons c rest ih =>
    simp only [findFirst?] at found
    split at found
    · rename_i here
      simp only [Option.some.injEq, Prod.mk.injEq] at found
      obtain ⟨rfl, rfl⟩ := found
      exact ⟨c :: rest, rfl, here⟩
    · simp only [Option.map_eq_some_iff, Prod.mk.injEq, Prod.exists] at found
      obtain ⟨before, segments, found, rfl, rfl⟩ := found
      obtain ⟨tail, split, fits⟩ := ih found
      exact ⟨tail, by rw [split]; rfl, fits⟩

/-- A tag is found where its shape fits. -/
theorem classify?_spec {text : List Char} {found : TagMatch}
    (classified : classify? ignoreCase text = some found) :
    ∃ rest, text = found.before ++ rest ∧
      found.kind.recognise? ignoreCase rest = some found.segments := by
  obtain ⟨kind, -, matched⟩ := List.exists_of_findSome?_eq_some classified
  simp only [TagKind.find?, Option.map_eq_some_iff, Prod.exists] at matched
  obtain ⟨before, segments, fits, rfl⟩ := matched
  exact findFirst?_spec fits

end Stencil.Tag
