import Stencil.Proofs.Candidates
import Stencil.Proofs.Regions
import Stencil.Proofs.Shapes

/-! # How much of a candidate a tag takes

The cutting into tokens and the shapes of tags each have their own idea of where a
tag ends.  A candidate ends at its first closing brace outside strings; a shape
is looked for anywhere inside it, and some shapes end at the first closing brace
there is.  What the two disagree about is left out of the program.

* `openQuote_congr` — the case of letters matters to no string;
* `closed_of_careful` — the shapes that keep out of strings;
* `tokenize_tagExtent` — the tag is the whole candidate exactly when it begins
  with it and its last brace stands in no string.
-/

namespace Stencil.Tag

open Stencil.Template
open Stencil.Text (splitFirst?)

variable {ignoreCase : Bool}

/-! ## Strings in tags -/

theorem nextQuote_congr {quote : Option Char} {c d : Char} (opened : ∀ q ∈ quote, isQuote q)
    (same : letterOf ignoreCase c = letterOf ignoreCase d) :
    nextQuote quote c = nextQuote quote d := by
  have symbol {q : Char} (delimits : isQuote q = true) : q ∈ symbols := by
    simp only [isQuote, Bool.or_eq_true, beq_iff_eq] at delimits
    rcases delimits with rfl | rfl <;> decide
  by_cases left : isQuote c = true
  · rw [letterOf_symbol (symbol left)] at same
    rw [eq_of_letterOf (symbol left) same.symm]
  · by_cases right : isQuote d = true
    · rw [letterOf_symbol (symbol right)] at same
      rw [eq_of_letterOf (symbol right) same]
    · cases quote with
      | none => simp [nextQuote, left, right]
      | some q =>
        have delimits := opened q rfl
        have notLeft : c ≠ q := fun eq => left (eq ▸ delimits)
        have notRight : d ≠ q := fun eq => right (eq ▸ delimits)
        simp [nextQuote, notLeft, notRight]

theorem isQuote_nextQuote {quote : Option Char} {c : Char} (opened : ∀ q ∈ quote, isQuote q) :
    ∀ q ∈ nextQuote quote c, isQuote q := by
  cases quote with
  | none =>
    by_cases delimits : isQuote c = true <;> simp [nextQuote, delimits]
  | some quote =>
    by_cases same : c = quote
    · simp [nextQuote, same]
    · simpa [nextQuote, same] using opened

/-- The letters of a keyword matter to no string. -/
theorem openQuote_congr {quote : Option Char} {left right : List Char}
    (opened : ∀ q ∈ quote, isQuote q)
    (same : left.map (letterOf ignoreCase) = right.map (letterOf ignoreCase)) :
    openQuote quote left = openQuote quote right := by
  induction left generalizing quote right with
  | nil => rw [List.map_eq_nil_iff.1 same.symm]
  | cons c left ih =>
    obtain ⟨d, others, rfl, letter, letters⟩ := List.map_eq_cons_iff.1 same.symm
    rw [openQuote_cons, openQuote_cons, nextQuote_congr opened letter]
    exact ih (isQuote_nextQuote opened) letters.symm

theorem closesBeforeBrace_of_mem {quote : Char} {text : List Char} (inside : quote ∈ text) :
    closesBeforeBrace quote (text ++ ['}']) = true := by
  induction text with
  | nil => cases inside
  | cons c rest ih =>
    by_cases same : quote = c
    · simp [closesBeforeBrace, splitFirst?, same, List.isPrefixOf?]
    · have later := ih ((List.mem_cons.1 inside).resolve_left same)
      unfold closesBeforeBrace at later ⊢
      rw [List.cons_append, splitFirst?]
      have other : [quote].isPrefixOf? (c :: (rest ++ ['}'])) = none := by
        simp [List.isPrefixOf?, same]
      rw [other]
      cases parts : splitFirst? [quote] (rest ++ ['}']) with
      | none => simp [parts] at later
      | some parts' => simpa [parts] using later

/-- What a candidate goes on with is read as a whole by the shape of printed
    values, too. -/
theorem closeOutput?_of_allQuoted {quote : Option Char} {inner : List Char}
    (closed : openQuote quote inner = none) (quoted : AllQuoted quote inner) :
    closeOutput? quote (inner ++ ['}']) = some (inner ++ ['}']) := by
  induction inner generalizing quote with
  | nil =>
    cases closed
    rfl
  | cons c inner ih =>
    obtain ⟨here, later⟩ := allQuoted_cons.1 quoted
    cases quote with
    | some quote =>
      show (closeOutput? (nextQuote (some quote) c) (inner ++ ['}'])).map (c :: ·) = _
      rw [ih closed later]
      rfl
    | none =>
      have notBrace : c ≠ '}' := fun brace => here brace rfl
      have next : (if isQuote c && closesBeforeBrace c (inner ++ ['}']) then some c else none) =
          nextQuote none c := by
        by_cases delimits : isQuote c = true
        · rw [openQuote_cons, nextQuote, if_pos delimits] at closed
          simp [nextQuote, delimits, closesBeforeBrace_of_mem (mem_of_openQuote closed)]
        · simp [nextQuote, delimits]
      rw [List.cons_append, closeOutput?, if_neg notBrace, next]
      show (closeOutput? (nextQuote none c) (inner ++ ['}'])).map (c :: ·) = _
      rw [ih closed later]
      rfl

/-- The kinds whose shapes end at the first closing brace there is, be it inside a
    string. -/
def TagKind.breaksStrings (kind : TagKind) : Bool :=
  kind == .loopOpen || kind == .functionCall || kind == .ternary

/-- The kinds whose shapes take any character first, be it a quote. -/
def TagKind.printsValue (kind : TagKind) : Bool := kind == .variableTag || kind == .constantTag

theorem openQuote_keyword {name text : List Char} {segments : List Segment}
    (plain : openQuote none name = none)
    (found : keyword? ignoreCase name text = some segments) :
    openQuote none (textOf segments).dropLast = none := by
  obtain ⟨letters, whole, same, -⟩ := keyword?_spec found
  rw [whole, ← List.cons_append, List.dropLast_concat, openQuote_cons]
  exact (openQuote_congr (by simp [nextQuote, isQuote]) same).trans plain

theorem openQuote_quotedArgument {name text : List Char} {segments : List Segment}
    (plain : openQuote none name = none)
    (found : quotedArgument? ignoreCase name text = some segments) :
    openQuote none (textOf segments).dropLast = none := by
  obtain ⟨letters, argument, whole, same, outside, -⟩ := quotedArgument?_spec found
  have opening : openQuote none letters = some '"' := by
    rw [openQuote_congr (by simp) same, openQuote_append, plain]
    rfl
  have split : textOf segments = ('{' :: (letters ++ argument ++ ['"'])) ++ ['}'] := by
    simp [whole]
  rw [split, List.dropLast_concat, openQuote_cons]
  show openQuote none (letters ++ argument ++ ['"']) = none
  rw [openQuote_append, openQuote_append, opening, openQuote_of_not_mem outside]
  rfl

/-- The shape of printed values reads a whole candidate. -/
theorem output?_candidate {sigil first : Char} {text inner : List Char} {segments : List Segment}
    (candidate : IsCandidate text first inner)
    (plain : ∀ third ∈ inner.head?, isQuote third = false)
    (found : output? sigil text = some segments) : textOf segments = text := by
  rw [candidate.text_eq] at found ⊢
  cases inner with
  | nil => simp [output?] at found
  | cons third inner =>
    have third_next : nextQuote none third = none := by
      simp [nextQuote, plain third rfl]
    have closed := candidate.closed
    have quoted := (allQuoted_cons.1 candidate.quoted).2
    rw [openQuote_cons, third_next] at closed
    rw [third_next] at quoted
    simp only [List.cons_append, output?, closeOutput?_of_allQuoted closed quoted,
      Option.map_some] at found
    split at found
    · cases found
      simp [Segment.text]
    · cases found

/-- A shape that keeps out of strings ends outside of them. -/
theorem closed_of_careful {kind : TagKind} {text inner : List Char} {first : Char}
    {segments : List Segment} (candidate : IsCandidate text first inner)
    (braces : kind.inBraces = true) (careful : kind.breaksStrings = false)
    (plain : kind.printsValue = true → ∀ third ∈ inner.head?, isQuote third = false)
    (found : kind.recognise? ignoreCase text = some segments) :
    openQuote none (textOf segments).dropLast = none := by
  have value {sigil : Char} (prints : kind.printsValue = true)
      (found : output? sigil text = some segments) :
      openQuote none (textOf segments).dropLast = none := by
    have same := output?_candidate candidate (plain prints) found
    have first_next : nextQuote none first = none := by
      simp [nextQuote, candidate.first_quote]
    rw [same, candidate.text_eq, ← List.cons_append, ← List.cons_append, List.dropLast_concat,
      openQuote_cons, openQuote_cons]
    show openQuote (nextQuote none first) inner = none
    rw [first_next]
    exact candidate.closed
  cases kind with
  | ignoreClose | ignoreOpen => cases braces
  | loopOpen | functionCall | ternary => cases careful
  | inclusion | ifOpen | elseIf | autoescapeOpen => exact openQuote_quotedArgument (by decide) found
  | variableTag | constantTag => exact value rfl found
  | _ => exact openQuote_keyword (by decide) found

end Stencil.Tag

namespace Stencil.Program

open Stencil.Source (LineIndex)
open Stencil.Tag
open Stencil.Template

/-! ## Candidates and tags -/

/-- How the tag that was found in a candidate lies in it. -/
structure TagExtent (token : Token) (found : TagMatch) : Prop where
  parts : ∃ after, token.text = found.before ++ found.whole ++ after
  braced : ∃ inner, found.whole = '{' :: (inner ++ ['}'])
  /-- A tag behind the first brace of the candidate is one inside another brace. -/
  nested : found.before ≠ [] → ∃ outer, found.before = '{' :: outer
  /-- The tag is the candidate where it begins it and ends outside strings. -/
  whole_iff : found.whole = token.text ↔
    found.before = [] ∧ openQuote none found.whole.dropLast = none
  /-- Only some kinds can end inside a string. -/
  careful : found.before = [] → found.kind.breaksStrings = false →
    (found.kind.printsValue = true → ∀ third ∈ token.text[2]?, isQuote third = false) →
    found.whole = token.text
  /-- Nothing outside the tag gets into the program. -/
  dropped : ∀ (compiler : Compiler) (origin : Origin) (lines : LineIndex) (state : State),
    IsActive compiler.options state.region token →
    classify? compiler.options.caseInsensitiveTags token.text = some found →
    compiler.step origin lines state token =
      compiler.ordinaryTag origin lines state token.span ⟨found.kind, [], found.segments⟩

/-- In a candidate that begins with a tag the tag is followed by more text exactly
    when its last brace stands in a string; a tag that the candidate does not
    begin with stands behind another opening brace. -/
theorem tokenize_tagExtent (stripComments ignoreCase : Bool) (source : List Char) (token : Token)
    (found : TagMatch) (listed : token ∈ tokenize stripComments source)
    (kind : token.kind = .candidate)
    (classified : classify? ignoreCase token.text = some found)
    (other : found.kind ≠ .ignoreOpen) : TagExtent token found := by
  obtain ⟨first, inner, candidate⟩ := isCandidate_of_mem_tokenize listed kind
  obtain ⟨rest, split, fits⟩ := classify?_spec classified
  have inBraces : ∀ kind ∈ TagKind.ordinary, kind ≠ .ignoreOpen → kind.inBraces = true := by decide
  have braces := inBraces found.kind (kind_classify? classified) other
  obtain ⟨between, after, whole, parts⟩ := (TagKind.recognise?_braced braces fits).between
  replace whole : found.whole = '{' :: (between ++ ['}']) := whole
  replace parts : rest = found.whole ++ after := parts
  have front : found.whole.dropLast = '{' :: between := by
    rw [whole, ← List.cons_append, List.dropLast_concat]
  have whole_iff : found.whole = token.text ↔
      found.before = [] ∧ openQuote none found.whole.dropLast = none := by
    rw [front]
    constructor
    · intro same
      have lengths := congrArg List.length split
      simp only [← same, parts, List.length_append] at lengths
      have alone : found.before = [] := List.length_eq_zero_iff.1 (by omega)
      refine ⟨alone, (candidate.eq_iff ?_).1 rfl⟩
      rw [← same, whole]
    · rintro ⟨alone, outside⟩
      rw [alone, List.nil_append] at split
      have parts' : '{' :: (between ++ '}' :: after) = token.text := by
        rw [split, parts, whole, List.cons_append, List.append_assoc]
        rfl
      rw [split, parts, (candidate.eq_iff parts').2 outside, List.append_nil]
  constructor
  case parts => exact ⟨after, by rw [split, parts, List.append_assoc]⟩
  case braced => exact ⟨between, whole⟩
  case nested =>
    intro behind
    rw [candidate.text_eq] at split
    cases before : found.before with
    | nil => exact absurd before behind
    | cons c outer =>
      rw [before] at split
      exact ⟨outer, by rw [(List.cons.inj split).1]⟩
  case whole_iff => exact whole_iff
  case careful =>
    intro alone careful plain
    rw [alone, List.nil_append] at split
    rw [← split] at fits
    refine whole_iff.2 ⟨alone, closed_of_careful candidate braces careful ?_ fits⟩
    intro prints third isThird
    refine plain prints third ?_
    rw [candidate.text_eq]
    cases inner with
    | nil => cases isThird
    | cons c inner => exact isThird
  case dropped =>
    intro compiler origin lines state active classified
    rw [step_of_active active classified]
    rfl

/-- A brace in a string ends a ternary, and what follows is lost. -/
theorem tokenize_tagExtent_ternary :
    let text := "\x7b$a?\"x\":\"\x7d\"\x7d".toList
    let token : Token := ⟨.candidate, text, ⟨0, 12⟩⟩
    let found : TagMatch := ⟨.ternary, [],
      [.fixed ['\x7b'], .argument 1 "$a".toList, .fixed ['?'], .argument 2 "\"x\"".toList,
        .fixed [':'], .argument 3 ['"'], .fixed ['\x7d']]⟩
    token ∈ tokenize false text ∧ token.kind = .candidate ∧
      classify? false token.text = some found ∧ found.kind ≠ .ignoreOpen ∧
      TagExtent token found ∧ found.whole ≠ token.text := by
  intro text token found
  have listed : token ∈ tokenize false text := by decide +kernel
  have classified : classify? false token.text = some found := by decide +kernel
  exact ⟨listed, rfl, classified, by decide,
    tokenize_tagExtent _ _ _ _ _ listed rfl classified (by decide), by decide⟩

end Stencil.Program
