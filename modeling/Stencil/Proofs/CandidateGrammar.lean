import Mathlib.Computability.Language
import Stencil.Proofs.Occurrences
import Stencil.Proofs.PlainText

/-! # The grammar of tokens

A candidate is a word of a regular language: a brace, a character that is neither
a quote nor a closing brace, then plain characters and closed strings, and a closing
brace.  No word of it begins with another one, so at most one candidate begins at
any place of a text.  Going from left to right, a template is cut where a comment
or such a word begins, and what lies between two cuts is literal text.

* `candidates` — the language of candidates;
* `candidate?_eq_some_iff` — the reader finds exactly its words;
* `IsComment` / `Begins` — what may begin at a place;
* `Scan` — the tokens of a text, read off the grammar;
* `tokenize_scans` — they are the tokens that are found.
-/

namespace Stencil.Template

open Stencil.Source (Span)
open Stencil.Text
open scoped Computability

/-! ## The language -/

/-- The single characters that neither open a string nor close a candidate. -/
def plainCharacters : Language Char := {word | ∃ c, word = [c] ∧ isQuote c = false ∧ c ≠ '}'}

/-- The strings between two equal quotes. -/
def strings (quote : Char) : Language Char :=
  {word | ∃ inside, word = quote :: (inside ++ [quote]) ∧ quote ∉ inside}

/-- What a candidate holds behind its first character, up to its closing brace. -/
def candidateTails : Language Char := (plainCharacters + strings '"' + strings '\'')∗ * {['}']}

def candidates : Language Char := {['{']} * plainCharacters * candidateTails

section Language

variable {text body after word inside : List Char} {c quote first : Char}

theorem mem_plainCharacters : [c] ∈ plainCharacters ↔ isQuote c = false ∧ c ≠ '}' := by
  constructor
  · rintro ⟨d, same, plain⟩
    obtain rfl : c = d := by simpa using same
    exact plain
  · exact fun plain => ⟨c, rfl, plain⟩

theorem closing_mem : ['}'] ∈ candidateTails :=
  ⟨[], Language.nil_mem_kstar _, ['}'], rfl, rfl⟩

theorem append_mem (isUnit : word ∈ plainCharacters + strings '"' + strings '\'')
    (later : text ∈ candidateTails) : word ++ text ∈ candidateTails := by
  obtain ⟨front, units, back, closes, rfl⟩ := later
  obtain ⟨words, rfl, listed⟩ := Language.mem_kstar.1 units
  refine ⟨word ++ words.flatten, Language.mem_kstar.2 ⟨word :: words, rfl, ?_⟩, back, closes, ?_⟩
  · simpa using ⟨isUnit, listed⟩
  · exact List.append_assoc _ _ _

theorem plain_mem (plain : isQuote c = false) (noBrace : c ≠ '}') (later : text ∈ candidateTails) :
    c :: text ∈ candidateTails :=
  append_mem (.inl (.inl (mem_plainCharacters.2 ⟨plain, noBrace⟩))) later

theorem string_mem (isQuoted : isQuote quote = true) (closed : quote ∉ inside)
    (later : text ∈ candidateTails) : quote :: (inside ++ quote :: text) ∈ candidateTails := by
  have word : quote :: (inside ++ [quote]) ∈ plainCharacters + strings '"' + strings '\'' := by
    rcases (by simpa [isQuote] using isQuoted) with rfl | rfl
    · exact .inl (.inr ⟨inside, rfl, closed⟩)
    · exact .inr ⟨inside, rfl, closed⟩
  simpa using append_mem word later

/-- Words of the language one unit at a time. -/
theorem candidateTails_induction {motive : List Char → Prop} (closing : motive ['}'])
    (plain : ∀ c text, isQuote c = false → c ≠ '}' → motive text → motive (c :: text))
    (string : ∀ quote inside text, isQuote quote = true → quote ∉ inside → motive text →
      motive (quote :: (inside ++ quote :: text)))
    (listed : text ∈ candidateTails) : motive text := by
  obtain ⟨_, units, _, rfl, rfl⟩ := listed
  obtain ⟨words, rfl, isUnit⟩ := Language.mem_kstar.1 units
  clear units
  induction words with
  | nil => exact closing
  | cons word words ih =>
    have later := ih fun other inWords => isUnit other (.tail _ inWords)
    rcases isUnit word (.head _) with (⟨c, rfl, notQuote, noBrace⟩ | ⟨inside, rfl, closed⟩) |
      ⟨inside, rfl, closed⟩
    · exact plain c _ notQuote noBrace later
    · simpa using string '"' inside _ rfl closed later
    · simpa using string '\'' inside _ rfl closed later

/-! ## Reading it -/

theorem closeCandidate_map (notBrace : c ≠ '}') : closeCandidate none (c :: text) =
    (closeCandidate (if isQuote c then some c else none) text).map
      fun (body, after) => (c :: body, after) := by
  simp [closeCandidate, notBrace]

/-- Behind an open quote the reader passes the string up to its end. -/
theorem closeCandidate_inside (closed : quote ∉ inside) (text : List Char) :
    closeCandidate (some quote) (inside ++ quote :: text) =
      (closeCandidate none text).map fun (body, after) => (inside ++ quote :: body, after) := by
  induction inside with
  | nil => simp [closeCandidate]
  | cons c inside ih =>
    obtain ⟨other, closed⟩ := not_or.1 (mt List.mem_cons.2 closed)
    simp [closeCandidate, Ne.symm other, ih closed, Function.comp_def]

theorem closeCandidate_of_mem (listed : body ∈ candidateTails) (after : List Char) :
    closeCandidate none (body ++ after) = some (body, after) := by
  refine candidateTails_induction (motive := fun body =>
    closeCandidate none (body ++ after) = some (body, after)) ?closing ?plain ?string listed
  case closing => simp [closeCandidate]
  case plain =>
    intro c text notQuote noBrace ih
    simp [closeCandidate_map noBrace, notQuote, ih]
  case string =>
    intro quote inside text isQuoted closed ih
    have noBrace : quote ≠ '}' := by
      rintro rfl
      cases isQuoted
    simp [closeCandidate_map noBrace, isQuoted, closeCandidate_inside closed, ih]

/-- What may follow up to the end of a candidate in which `open?` is the open quote. -/
def endings : Option Char → Language Char
  | none => candidateTails
  | some quote => {word | ∃ inside rest, word = inside ++ quote :: rest ∧ quote ∉ inside ∧
      rest ∈ candidateTails}

theorem mem_of_closeCandidate {open? : Option Char}
    (found : closeCandidate open? text = some (body, after)) : body ∈ endings open? := by
  fun_induction closeCandidate open? text generalizing body with
  | case1 => cases found
  | case2 => cases found; exact closing_mem
  | case3 c rest notBrace ih =>
    obtain ⟨⟨inner, _⟩, deeper, same⟩ := Option.map_eq_some_iff.1 found
    cases same
    have later := ih deeper
    by_cases isQuoted : isQuote c = true
    · rw [if_pos isQuoted] at later
      obtain ⟨inside, behind, rfl, closed, tail⟩ := later
      exact string_mem isQuoted closed tail
    · rw [if_neg isQuoted] at later
      exact plain_mem (by simpa using isQuoted) notBrace later
  | case4 quote c rest ih =>
    obtain ⟨⟨inner, _⟩, deeper, same⟩ := Option.map_eq_some_iff.1 found
    cases same
    have later := ih deeper
    by_cases closes : c = quote
    · rw [if_pos closes] at later
      exact ⟨[], inner, by simp [closes], by simp, later⟩
    · rw [if_neg closes] at later
      obtain ⟨inside, behind, rfl, closed, tail⟩ := later
      exact ⟨c :: inside, behind, rfl, by simp [closed, Ne.symm closes], tail⟩

/-- The reader finds exactly the words of the language. -/
theorem candidate?_eq_some_iff :
    candidate? text = some (body, after) ↔ body ∈ candidates ∧ body ++ after = text := by
  constructor
  · intro found
    refine ⟨?_, candidate?_append found⟩
    obtain ⟨first, rest, tail, -, rfl, noQuote, noBrace, closed⟩ := exists_of_candidate? found
    have start : [first] ∈ plainCharacters := mem_plainCharacters.2 ⟨noQuote, noBrace⟩
    exact ⟨['{', first], ⟨['{'], rfl, [first], start, rfl⟩, tail, mem_of_closeCandidate closed, rfl⟩
  · rintro ⟨⟨_, ⟨_, rfl, _, ⟨first, rfl, notQuote, noBrace⟩, rfl⟩, tail, listed, rfl⟩, rfl⟩
    simp [candidate?, notQuote, noBrace, closeCandidate_of_mem listed]

/-- At most one word begins at a place. -/
theorem eq_of_candidates {other : List Char} (listed : body ∈ candidates)
    (otherListed : other ∈ candidates) (begins : body <+: text) (otherBegins : other <+: text) :
    body = other := by
  obtain ⟨after, split⟩ := begins
  obtain ⟨rest, otherSplit⟩ := otherBegins
  have found := candidate?_eq_some_iff.2 ⟨listed, split⟩
  rw [candidate?_eq_some_iff.2 ⟨otherListed, otherSplit⟩] at found
  cases found
  rfl

end Language

/-! ## What begins at a place -/

/-- A comment with which a text begins: it ends at the first closing mark behind
    its opening mark. -/
def IsComment (text body : List Char) : Prop :=
  ∃ inside, body = "<!--".toList ++ (inside ++ "-->".toList) ∧ body <+: text ∧
    ¬ "-->".toList <:+: inside ++ "--".toList

/-- What a text begins with: a comment, if comments are stripped, and else a word of
    the language. -/
inductive Begins (stripComments : Bool) (text : List Char) : TokenKind → List Char → Prop where
  | comment {body : List Char} (strips : stripComments = true) (isComment : IsComment text body) :
      Begins stripComments text .comment body
  | candidate {body : List Char} (noComment : stripComments = true → ∀ other, ¬ IsComment text other)
      (listed : body ∈ candidates) (front : body <+: text) :
      Begins stripComments text .candidate body

section Begins

variable {stripComments : Bool} {text body after : List Char} {kind : TokenKind}

theorem comment?_eq_some_iff :
    comment? text = some (body, after) ↔ IsComment text body ∧ body ++ after = text := by
  constructor
  · intro found
    have whole := comment?_append found
    refine ⟨?_, whole⟩
    obtain ⟨rest, inside, -, rfl, split⟩ := exists_of_comment? found
    exact ⟨inside, by simp, ⟨_, whole⟩, ((splitFirst?_eq_some_iff (by decide)).1 split).2⟩
  · rintro ⟨⟨inside, rfl, -, first⟩, rfl⟩
    have split : splitFirst? "-->".toList (inside ++ ("-->".toList ++ after)) =
        some (inside, after) := (splitFirst?_eq_some_iff (by decide)).2 ⟨rfl, first⟩
    simpa [comment?] using split

theorem comment?_eq_none_iff : comment? text = none ↔ ∀ body, ¬ IsComment text body := by
  constructor
  · intro none body isComment
    obtain ⟨after, whole⟩ : body <+: text := isComment.choose_spec.2.1
    rw [comment?_eq_some_iff.2 ⟨isComment, whole⟩] at none
    cases none
  · intro absent
    cases found : comment? text with
    | none => rfl
    | some cut => exact absurd (comment?_eq_some_iff.1 found).1 (absent cut.1)

theorem cut?_eq_some_iff :
    cut? stripComments text = some (⟨kind, body⟩, after) ↔
      Begins stripComments text kind body ∧ body ++ after = text := by
  cases found : (if stripComments then comment? text else none) with
  | some cut =>
    obtain ⟨comment, rest⟩ := cut
    obtain ⟨strips, found⟩ : stripComments = true ∧ comment? text = some (comment, rest) := by
      simpa using found
    have isComment := comment?_eq_some_iff.1 found
    simp only [cut?, strips, found, if_true, Option.some.injEq, Prod.mk.injEq, Piece.mk.injEq]
    constructor
    · rintro ⟨⟨rfl, rfl⟩, rfl⟩
      exact ⟨.comment rfl isComment.1, isComment.2⟩
    · rintro ⟨begins, split⟩
      cases begins with
      | comment _ other =>
        have same := comment?_eq_some_iff.2 ⟨other, split⟩
        rw [found] at same
        cases same
        exact ⟨⟨rfl, rfl⟩, rfl⟩
      | candidate noComment => exact absurd isComment.1 (noComment rfl _)
  | none =>
    have noComment : stripComments = true → ∀ other, ¬ IsComment text other := by
      rintro rfl
      exact comment?_eq_none_iff.1 found
    simp only [cut?, found, Option.map_eq_some_iff, Prod.exists, Prod.mk.injEq, Piece.mk.injEq]
    constructor
    · rintro ⟨_, _, candidate, ⟨rfl, rfl⟩, rfl⟩
      obtain ⟨listed, split⟩ := candidate?_eq_some_iff.1 candidate
      exact ⟨.candidate noComment listed ⟨_, split⟩, split⟩
    · rintro ⟨begins, split⟩
      cases begins with
      | comment strips isComment => exact absurd isComment (noComment strips _)
      | candidate _ listed _ =>
        exact ⟨_, _, candidate?_eq_some_iff.2 ⟨listed, split⟩, ⟨rfl, rfl⟩, rfl⟩

theorem Begins.front (begins : Begins stripComments text kind body) : body <+: text := by
  cases begins with
  | comment _ isComment => exact isComment.choose_spec.2.1
  | candidate _ _ front => exact front

theorem cut?_eq_none_iff :
    cut? stripComments text = none ↔ ∀ kind body, ¬ Begins stripComments text kind body := by
  constructor
  · intro none kind body begins
    obtain ⟨after, split⟩ := begins.front
    rw [cut?_eq_some_iff.2 ⟨begins, split⟩] at none
    cases none
  · intro nothing
    cases found : cut? stripComments text with
    | none => rfl
    | some cut => exact absurd (cut?_eq_some_iff.1 found).1 (nothing _ _)

end Begins

/-! ## The scan -/

/-- The tokens of a text from byte `offset` on, from left to right.  Literal text
    reaches up to the next cut or the end. -/
inductive Scan (stripComments : Bool) : Nat → List Char → List Token → Prop where
  | done {offset : Nat} : Scan stripComments offset [] []
  | cut {offset : Nat} {kind : TokenKind} {body after : List Char} {tokens : List Token}
      (begins : Begins stripComments (body ++ after) kind body)
      (later : Scan stripComments (offset + byteLength body) after tokens) :
      Scan stripComments offset (body ++ after)
        (⟨kind, body, .ofBounds offset (offset + byteLength body)⟩ :: tokens)
  | literal {offset : Nat} {run after : List Char} {tokens : List Token} (filled : run ≠ [])
      (plain : ∀ start, start ≠ [] → start <:+ run →
        ∀ kind body, ¬ Begins stripComments (start ++ after) kind body)
      (maximal : after = [] ∨ ∃ kind body, Begins stripComments after kind body)
      (later : Scan stripComments (offset + byteLength run) after tokens) :
      Scan stripComments offset (run ++ after)
        (⟨.literal, run, .ofBounds offset (offset + byteLength run)⟩ :: tokens)

section Scanning

variable {stripComments : Bool} {offset : Nat} {text run after : List Char} {c : Char}
  {tokens : List Token} {piece : Piece} {cuts : List Piece}

/-- A run in which nothing begins is put in front of the pieces behind it. -/
theorem pieces_run (plain : ∀ start, start ≠ [] → start <:+ run →
      cut? stripComments (start ++ after) = none) :
    pieces stripComments (run ++ after) = run.foldr prependLiteral (pieces stripComments after) := by
  induction run with
  | nil => rfl
  | cons c run ih =>
    have uncut := plain (c :: run) (by simp) (List.suffix_refl _)
    rw [List.cons_append] at uncut ⊢
    rw [pieces_of_uncut uncut, List.foldr_cons,
      ih fun start filled inside => plain start filled (inside.trans (List.suffix_cons _ _))]

/-- A text at whose front something begins has a first piece that is no literal. -/
theorem kind_head?_pieces (maximal : after = [] ∨ ∃ kind body, Begins stripComments after kind body) :
    ∀ piece ∈ (pieces stripComments after).head?, piece.kind ≠ .literal := by
  rcases maximal with rfl | ⟨kind, body, begins⟩
  · simp [pieces]
  · obtain ⟨rest, split⟩ := begins.front
    have found := cut?_eq_some_iff.2 ⟨begins, split⟩
    rw [pieces_of_cut found]
    rintro _ ⟨⟩
    exact cut?_kind_ne_literal found

/-- A scan finds the pieces. -/
theorem Scan.eq_placeFrom (scan : Scan stripComments offset text tokens) :
    tokens = placeFrom offset (pieces stripComments text) := by
  induction scan with
  | done => rw [pieces]; rfl
  | cut begins _ ih =>
    rw [pieces_of_cut (cut?_eq_some_iff.2 ⟨begins, rfl⟩), ih]
    rfl
  | literal filled plain maximal _ ih =>
    rw [pieces_run fun start nonempty inside => cut?_eq_none_iff.2 (plain start nonempty inside),
      foldr_prependLiteral filled (kind_head?_pieces maximal), ih]
    rfl

/-- One more character at which nothing begins makes the first run longer, or is a
    run of its own. -/
theorem Scan.prependLiteral (none : cut? stripComments (c :: text) = none)
    (scan : ∀ offset, Scan stripComments offset text (placeFrom offset cuts)) :
    Scan stripComments offset (c :: text) (placeFrom offset (prependLiteral c cuts)) := by
  have nothing := cut?_eq_none_iff.1 none
  have single (maximal : text = [] ∨ ∃ kind body, Begins stripComments text kind body) :
      Scan stripComments offset (c :: text) (placeFrom offset (⟨.literal, [c]⟩ :: cuts)) := by
    have filled : [c] ≠ [] := by simp
    refine .literal filled ?_ maximal (scan _)
    intro start filled inside
    rcases List.suffix_cons_iff.1 inside with rfl | deeper
    · exact nothing
    · exact absurd (List.suffix_nil.1 deeper) filled
  have later := scan (offset + byteLength [c])
  cases cuts with
  | nil =>
    cases later
    exact single (.inl rfl)
  | cons piece cuts =>
    obtain ⟨kind, body⟩ := piece
    cases later with
    | cut begins rest =>
      have notLiteral : kind ≠ .literal := by
        cases begins <;> simp
      have alone : Template.prependLiteral c (⟨kind, body⟩ :: cuts) =
          ⟨.literal, [c]⟩ :: ⟨kind, body⟩ :: cuts := by
        unfold Template.prependLiteral
        split
        · rename_i same
          cases same
          exact absurd rfl notLiteral
        · rfl
      rw [alone]
      exact single (.inr ⟨_, _, begins⟩)
    | literal filled plain maximal rest =>
      have longer : c :: body ≠ [] := by simp
      refine .literal longer ?_ maximal ?_
      · intro start nonempty inside
        rcases List.suffix_cons_iff.1 inside with rfl | deeper
        · exact nothing
        · exact plain start nonempty deeper
      · simpa [Nat.add_assoc] using rest

theorem scan_pieces (stripComments : Bool) (text : List Char) (offset : Nat) :
    Scan stripComments offset text (placeFrom offset (pieces stripComments text)) := by
  fun_induction pieces stripComments text generalizing offset with
  | case1 => exact .done
  | case2 c rest piece after found ih =>
    obtain ⟨begins, split⟩ := cut?_eq_some_iff.1 found
    rw [← split] at begins ⊢
    exact .cut begins (ih _)
  | case3 c rest none ih => exact Scan.prependLiteral none ih

/-- The tokens of a template are those of the scan, and no two candidates begin at
    one place. -/
theorem tokenize_scans (stripComments : Bool) (source : List Char) :
    (∀ tokens, tokenize stripComments source = tokens ↔ Scan stripComments 0 source tokens) ∧
      {body | body ∈ candidates ∧ body <+: source}.Subsingleton := by
  constructor
  · intro tokens
    constructor
    · rintro rfl
      exact scan_pieces stripComments source 0
    · exact fun scan => scan.eq_placeFrom.symm
  · rintro body ⟨listed, begins⟩ other ⟨otherListed, otherBegins⟩
    exact eq_of_candidates listed otherListed begins otherBegins

end Scanning

end Stencil.Template
