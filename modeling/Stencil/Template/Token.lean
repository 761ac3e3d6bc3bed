import Stencil.Source.Span
import Stencil.Text.Search
import Stencil.Text.Utf8

/-! # Tokens of a template

A template is cut into literal text, HTML comments and *candidates*: stretches
in braces that may turn out to be tags.  A candidate is an opening brace, one
character that is neither a quote nor a closing brace, and then everything up
to the first closing brace outside quoted strings.

* `closeCandidate` — the rest of a candidate, up to its closing brace;
* `cut?` — the comment or candidate that a text begins with;
* `pieces` — the whole text cut up, with literals in maximal runs;
* `tokenize` — the pieces with the spans they cover.
-/

namespace Stencil.Template

open Stencil.Source (Span)
open Stencil.Text (byteLength splitFirst? splitFirst?_append)

/-- What a token is. -/
inductive TokenKind where
  /-- Text outside tags and comments. -/
  | literal
  /-- A stretch in braces that may be a tag. -/
  | candidate
  /-- An HTML comment that is dropped from the output. -/
  | comment
  deriving DecidableEq, Repr

/-- A token's kind and its text. -/
structure Piece where
  kind : TokenKind
  text : List Char
  deriving DecidableEq, Repr

/-- A piece together with the bytes it covers. -/
structure Token where
  kind : TokenKind
  text : List Char
  span : Span
  deriving DecidableEq, Repr

/-- The two characters that delimit quoted strings. -/
def isQuote (c : Char) : Bool := c == '"' || c == '\''

/-! ## Candidates and comments -/

/-- Reads up to the first closing brace outside quoted strings.  `quote` is the
    quote that is open, if one is.  Gives what was read, with the brace, and
    the rest. -/
def closeCandidate : Option Char → List Char → Option (List Char × List Char)
  | _, [] => none
  | none, c :: rest =>
    if c = '}' then some (['}'], rest)
    else
      (closeCandidate (if isQuote c then some c else none) rest).map
        fun (body, after) => (c :: body, after)
  | some quote, c :: rest =>
    (closeCandidate (if c = quote then none else some quote) rest).map
      fun (body, after) => (c :: body, after)

/-- The candidate at the start of a text, and the text after it. -/
def candidate? : List Char → Option (List Char × List Char)
  | '{' :: first :: rest =>
    if isQuote first || first == '}' then none
    else
      (closeCandidate none rest).map fun (body, after) => ('{' :: first :: body, after)
  | _ => none

/-- The comment at the start of a text, and the text after it. -/
def comment? : List Char → Option (List Char × List Char)
  | '<' :: '!' :: '-' :: '-' :: rest =>
    (splitFirst? "-->".toList rest).map fun (body, after) =>
      ("<!--".toList ++ body ++ "-->".toList, after)
  | _ => none

/-- The comment or candidate at the start of a text, and the text after it.
    Comments are seen only when they are to be stripped. -/
def cut? (stripComments : Bool) (text : List Char) : Option (Piece × List Char) :=
  match (if stripComments then comment? text else none) with
  | some (body, after) => some (⟨.comment, body⟩, after)
  | none => (candidate? text).map fun (body, after) => (⟨.candidate, body⟩, after)

/-! ## What a cut leaves -/

theorem closeCandidate_append {quote : Option Char} {text body after : List Char}
    (closed : closeCandidate quote text = some (body, after)) : body ++ after = text := by
  fun_induction closeCandidate quote text generalizing body with
  | case1 => simp at closed
  | case2 => simp at closed; obtain ⟨rfl, rfl⟩ := closed; rfl
  | case3 c rest notBrace ih =>
    simp only [Option.map_eq_some_iff, Prod.mk.injEq] at closed
    obtain ⟨⟨inner, tail⟩, found, rfl, rfl⟩ := closed
    simp [ih found]
  | case4 quote c rest ih =>
    simp only [Option.map_eq_some_iff, Prod.mk.injEq] at closed
    obtain ⟨⟨inner, tail⟩, found, rfl, rfl⟩ := closed
    simp [ih found]

/-- A candidate is an opening brace, a character that is neither a quote nor a closing
    brace, and what closes it. -/
theorem exists_of_candidate? {text body after : List Char}
    (found : candidate? text = some (body, after)) :
    ∃ first rest inner, text = '{' :: first :: rest ∧ body = '{' :: first :: inner ∧
      isQuote first = false ∧ first ≠ '}' ∧ closeCandidate none rest = some (inner, after) := by
  unfold candidate? at found
  split at found
  · rename_i first rest
    split at found
    · cases found
    · rename_i plain
      obtain ⟨⟨inner, _⟩, closed, same⟩ := Option.map_eq_some_iff.1 found
      cases same
      simp only [Bool.or_eq_true, beq_iff_eq, not_or, Bool.not_eq_true] at plain
      exact ⟨first, rest, inner, rfl, rfl, plain.1, plain.2, closed⟩
  · cases found

theorem candidate?_append {text body after : List Char}
    (found : candidate? text = some (body, after)) : body ++ after = text := by
  obtain ⟨first, rest, inner, rfl, rfl, -, -, closed⟩ := exists_of_candidate? found
  simp [closeCandidate_append closed]

theorem candidate?_ne_nil {text body after : List Char}
    (found : candidate? text = some (body, after)) : body ≠ [] := by
  obtain ⟨first, rest, inner, -, rfl, -⟩ := exists_of_candidate? found
  exact List.cons_ne_nil _ _

/-- A comment ends at the first closing mark. -/
theorem exists_of_comment? {text body after : List Char}
    (found : comment? text = some (body, after)) :
    ∃ rest inner, text = "<!--".toList ++ rest ∧
      body = "<!--".toList ++ inner ++ "-->".toList ∧
      splitFirst? "-->".toList rest = some (inner, after) := by
  unfold comment? at found
  split at found
  · rename_i rest
    obtain ⟨⟨inner, _⟩, split, same⟩ := Option.map_eq_some_iff.1 found
    cases same
    exact ⟨rest, inner, rfl, rfl, split⟩
  · cases found

theorem comment?_append {text body after : List Char}
    (found : comment? text = some (body, after)) : body ++ after = text := by
  obtain ⟨rest, inner, rfl, rfl, split⟩ := exists_of_comment? found
  simp [← splitFirst?_append split]

theorem comment?_ne_nil {text body after : List Char}
    (found : comment? text = some (body, after)) : body ≠ [] := by
  obtain ⟨rest, inner, -, rfl, -⟩ := exists_of_comment? found
  simp

/-- What is cut off is a comment or a candidate. -/
theorem cut?_cases {stripComments : Bool} {text after : List Char} {piece : Piece}
    (found : cut? stripComments text = some (piece, after)) :
    (∃ body, piece = ⟨.comment, body⟩ ∧ comment? text = some (body, after)) ∨
      ∃ body, piece = ⟨.candidate, body⟩ ∧ candidate? text = some (body, after) := by
  unfold cut? at found
  split at found
  · rename_i body rest comment
    cases found
    split at comment
    · exact .inl ⟨body, rfl, comment⟩
    · cases comment
  · obtain ⟨⟨body, _⟩, candidate, same⟩ := Option.map_eq_some_iff.1 found
    cases same
    exact .inr ⟨body, rfl, candidate⟩

/-- A cut splits the text in two. -/
theorem cut?_append {stripComments : Bool} {text after : List Char} {piece : Piece}
    (found : cut? stripComments text = some (piece, after)) : piece.text ++ after = text := by
  rcases cut?_cases found with ⟨body, rfl, comment⟩ | ⟨body, rfl, candidate⟩
  · exact comment?_append comment
  · exact candidate?_append candidate

/-- A cut takes something away. -/
theorem cut?_text_ne_nil {stripComments : Bool} {text after : List Char} {piece : Piece}
    (found : cut? stripComments text = some (piece, after)) : piece.text ≠ [] := by
  rcases cut?_cases found with ⟨body, rfl, comment⟩ | ⟨body, rfl, candidate⟩
  · exact comment?_ne_nil comment
  · exact candidate?_ne_nil candidate

theorem length_after_cut {stripComments : Bool} {text after : List Char} {piece : Piece}
    (found : cut? stripComments text = some (piece, after)) : after.length < text.length := by
  have parts := congrArg List.length (cut?_append found)
  have := List.length_pos_iff.2 (cut?_text_ne_nil found)
  simp only [List.length_append] at parts
  omega

/-! ## Tokens -/

/-- Puts a literal character in front of the pieces, growing a literal that is
    already there. -/
def prependLiteral (c : Char) : List Piece → List Piece
  | ⟨.literal, text⟩ :: others => ⟨.literal, c :: text⟩ :: others
  | others => ⟨.literal, [c]⟩ :: others

/-- Cuts a text into its pieces. -/
def pieces (stripComments : Bool) (text : List Char) : List Piece :=
  match text with
  | [] => []
  | c :: rest =>
    match _found : cut? stripComments (c :: rest) with
    | some (piece, after) => piece :: pieces stripComments after
    | none => prependLiteral c (pieces stripComments rest)
termination_by text.length
decreasing_by
  · exact length_after_cut _found
  · simp

/-- Gives consecutive pieces the spans they cover, the first one starting at
    byte `offset`. -/
def placeFrom (offset : Nat) : List Piece → List Token
  | [] => []
  | ⟨kind, text⟩ :: others =>
    let stop := offset + byteLength text
    ⟨kind, text, .ofBounds offset stop⟩ :: placeFrom stop others

/-- The tokens of a template. -/
def tokenize (stripComments : Bool) (source : List Char) : List Token :=
  placeFrom 0 (pieces stripComments source)

/-- The tokens' texts concatenate to the source. -/
theorem flatMap_text_pieces (stripComments : Bool) (source : List Char) :
    (pieces stripComments source).flatMap Piece.text = source := by
  fun_induction pieces stripComments source with
  | case1 => rfl
  | case2 c rest piece after found ih => simp [ih, cut?_append found]
  | case3 c rest _ ih =>
    unfold prependLiteral
    split <;> simp_all

end Stencil.Template
