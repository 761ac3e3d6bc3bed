import Mathlib.Algebra.Group.Nat.Defs
import Mathlib.Data.List.Chain
import Stencil.Template.Token

/-! # Tokens tile their template

The tokens of a template stand edge to edge.  Their spans lead from the first
byte to the last one without gap or overlap, each of them cuts exactly its
token's text out of the source, and literal text comes in runs that are as
long as possible.

* `Span.Selects` — a span that cuts a text out of a source;
* `Tiles` — tokens that cover a source from end to end;
* `tokenize_tiles` — the tokens of a template do.
-/

namespace Stencil.Source

open Stencil.Text (byteLength bytes length_bytes bytes_append)

/-! ## What a span selects -/

/-- A byte position between two characters of a text, or at one of its ends. -/
def IsBoundary (source : List Char) (position : Nat) : Prop :=
  ∃ before after, source = before ++ after ∧ byteLength before = position

/-- A span that begins and ends between characters of `source` and whose bytes
    are those of `text`. -/
structure Span.Selects (span : Span) (source text : List Char) : Prop where
  starts : IsBoundary source span.first
  stops : IsBoundary source span.stop
  slice : ((bytes source).take span.stop).drop span.first = bytes text

theorem Span.first_ofBounds {start : Nat} (stop : Nat) (small : start ≤ wordMax) :
    (Span.ofBounds start stop).first = start := by
  rw [Span.first_ofBounds_eq_min, Nat.min_eq_left small]

theorem Span.stop_ofBounds {start stop : Nat} (ordered : start ≤ stop) (small : stop ≤ wordMax) :
    (Span.ofBounds start stop).stop = stop := by
  rw [Span.stop_ofBounds_eq_min, Nat.max_eq_right ordered, Nat.min_eq_left small]

/-- The span between the bounds of a stretch selects the stretch. -/
theorem Span.selects_ofBounds (before text after : List Char)
    (small : byteLength before + byteLength text ≤ wordMax) :
    (Span.ofBounds (byteLength before) (byteLength before + byteLength text)).Selects
      (before ++ text ++ after) text := by
  have first := Span.first_ofBounds (byteLength before + byteLength text)
    (Nat.le_trans (Nat.le_add_right _ _) small)
  have stop := Span.stop_ofBounds (Nat.le_add_right (byteLength before) (byteLength text)) small
  constructor
  · exact ⟨before, text ++ after, by simp, first.symm⟩
  · exact ⟨before ++ text, after, rfl, by simp [stop]⟩
  · have cut : byteLength before + byteLength text = (bytes before ++ bytes text).length := by
      simp [length_bytes]
    rw [first, stop, bytes_append, bytes_append, cut, List.take_left, ← length_bytes before,
      List.drop_left]

end Stencil.Source

namespace Stencil.Template

open Stencil.Source (Span wordMax)
open Stencil.Text (byteLength)

/-! ## Pieces -/

/-- Two neighbours that are not both literal text. -/
def Separated (left right : Piece) : Prop := ¬ (left.kind = .literal ∧ right.kind = .literal)

theorem cut?_kind_ne_literal {stripComments : Bool} {text after : List Char} {piece : Piece}
    (found : cut? stripComments text = some (piece, after)) : piece.kind ≠ .literal := by
  rcases cut?_cases found with ⟨body, rfl, -⟩ | ⟨body, rfl, -⟩ <;> simp

theorem prependLiteral_ne_nil {c : Char} {pieces : List Piece}
    (filled : ∀ piece ∈ pieces, piece.text ≠ []) :
    ∀ piece ∈ prependLiteral c pieces, piece.text ≠ [] := by
  unfold prependLiteral
  split <;> simp_all

theorem prependLiteral_separated {c : Char} {pieces : List Piece}
    (separated : pieces.IsChain Separated) : (prependLiteral c pieces).IsChain Separated := by
  unfold prependLiteral
  split
  · rename_i text others
    rw [List.isChain_cons] at separated ⊢
    exact ⟨fun next first => separated.1 next first, separated.2⟩
  · rename_i notLiteral
    refine List.isChain_cons.2 ⟨?_, separated⟩
    rintro ⟨kind, text⟩ first ⟨-, literal⟩
    obtain ⟨others, rfl⟩ := List.head?_eq_some_iff.1 first
    exact notLiteral text others (by rw [← literal])

theorem pieces_ne_nil (stripComments : Bool) (source : List Char) :
    ∀ piece ∈ pieces stripComments source, piece.text ≠ [] := by
  fun_induction pieces stripComments source with
  | case1 => simp
  | case2 c rest piece after found ih =>
    simpa [cut?_text_ne_nil found] using ih
  | case3 c rest _ ih => exact prependLiteral_ne_nil ih

/-- Literal text comes in maximal runs. -/
theorem pieces_separated (stripComments : Bool) (source : List Char) :
    (pieces stripComments source).IsChain Separated := by
  fun_induction pieces stripComments source with
  | case1 => exact .nil
  | case2 c rest piece after found ih =>
    refine List.isChain_cons.2 ⟨?_, ih⟩
    intro next _ both
    exact cut?_kind_ne_literal found both.1
  | case3 c rest _ ih => exact prependLiteral_separated ih

/-! ## Placed pieces -/

/-- The kind and text of a token. -/
def Token.piece (token : Token) : Piece := ⟨token.kind, token.text⟩

@[simp] theorem map_piece_placeFrom (offset : Nat) (pieces : List Piece) :
    (placeFrom offset pieces).map Token.piece = pieces := by
  induction pieces generalizing offset with
  | nil => rfl
  | cons piece others ih => simp [placeFrom, ih, Token.piece]

/-- A placed token stands where the texts before it end. -/
theorem span_of_mem_placeFrom {offset : Nat} {pieces : List Piece} {token : Token}
    (placed : token ∈ placeFrom offset pieces) :
    ∃ before after, pieces.flatMap Piece.text = before ++ token.text ++ after ∧
      token.span = .ofBounds (offset + byteLength before)
        (offset + (byteLength before + byteLength token.text)) := by
  induction pieces generalizing offset with
  | nil => simp [placeFrom] at placed
  | cons piece others ih =>
    simp only [placeFrom, List.mem_cons] at placed
    rcases placed with rfl | later
    · exact ⟨[], others.flatMap Piece.text, rfl, by simp⟩
    · obtain ⟨before, after, whole, span⟩ := ih later
      refine ⟨piece.text ++ before, after, by simp [whole], ?_⟩
      rw [span, Text.byteLength_append]
      simp only [Nat.add_assoc]

theorem placeFrom_contiguous {offset : Nat} {pieces : List Piece}
    (small : offset + byteLength (pieces.flatMap Piece.text) ≤ wordMax) :
    (placeFrom offset pieces).IsChain fun left right => left.span.stop = right.span.first := by
  induction pieces generalizing offset with
  | nil => exact .nil
  | cons piece others ih =>
    simp only [List.flatMap_cons, Text.byteLength_append] at small
    refine List.isChain_cons.2 ⟨?_, ih (by omega)⟩
    intro next first
    cases others with
    | nil => simp [placeFrom] at first
    | cons neighbour others =>
      simp only [placeFrom, List.head?_cons, Option.mem_def, Option.some.injEq] at first
      rw [← first, Span.stop_ofBounds (by omega) (by omega), Span.first_ofBounds _ (by omega)]

theorem stop_getLast?_placeFrom {offset : Nat} {pieces : List Piece}
    (small : offset + byteLength (pieces.flatMap Piece.text) ≤ wordMax) :
    ∀ token ∈ (placeFrom offset pieces).getLast?,
      token.span.stop = offset + byteLength (pieces.flatMap Piece.text) := by
  induction pieces generalizing offset with
  | nil => simp [placeFrom]
  | cons piece others ih =>
    simp only [List.flatMap_cons, Text.byteLength_append] at small ⊢
    intro token last
    cases others with
    | nil =>
      simp only [List.flatMap_nil, Text.byteLength_nil] at small ⊢
      simp only [placeFrom, List.getLast?_singleton, Option.mem_def, Option.some.injEq] at last
      rw [← last, Span.stop_ofBounds (by omega) (by omega)]
      rfl
    | cons neighbour others =>
      have later := @ih (offset + byteLength piece.text) (by omega) token
        (by simpa [placeFrom] using last)
      omega

/-! ## Tokens -/

/-- Tokens that cover a source from its first byte to its last one. -/
structure Tiles (source : List Char) (tokens : List Token) : Prop where
  /-- Nothing is lost. -/
  texts : tokens.flatMap Token.text = source
  starts : ∀ token ∈ tokens.head?, token.span.first = 0
  contiguous : tokens.IsChain fun left right => left.span.stop = right.span.first
  ends : ∀ token ∈ tokens.getLast?, token.span.stop = byteLength source
  selects : ∀ token ∈ tokens, token.span.Selects source token.text
  filled : ∀ token ∈ tokens, token.text ≠ []
  /-- Literal text comes in runs that are as long as possible. -/
  separated : tokens.IsChain fun left right => ¬ (left.kind = .literal ∧ right.kind = .literal)

theorem flatMap_text_tokenize (stripComments : Bool) (source : List Char) :
    (tokenize stripComments source).flatMap Token.text = source := by
  have pieces := flatMap_text_pieces stripComments source
  rw [← map_piece_placeFrom 0 (Template.pieces stripComments source), List.flatMap_map] at pieces
  exact pieces

theorem text_ne_nil_of_mem_tokenize {stripComments : Bool} {source : List Char} {token : Token}
    (listed : token ∈ tokenize stripComments source) : token.text ≠ [] := by
  have piece : token.piece ∈ pieces stripComments source := by
    rw [← map_piece_placeFrom 0 (pieces stripComments source)]
    exact List.mem_map_of_mem listed
  exact pieces_ne_nil stripComments source token.piece piece

theorem selects_of_mem_tokenize {stripComments : Bool} {source : List Char}
    (short : byteLength source < 2 ^ 32) {token : Token}
    (listed : token ∈ tokenize stripComments source) :
    token.span.Selects source token.text := by
  obtain ⟨before, after, whole, span⟩ := span_of_mem_placeFrom listed
  rw [flatMap_text_pieces] at whole
  have lengths := congrArg byteLength whole
  simp only [Text.byteLength_append] at lengths
  have small : byteLength before + byteLength token.text ≤ wordMax := by
    unfold wordMax
    omega
  rw [whole, span, Nat.zero_add, Nat.zero_add]
  exact Span.selects_ofBounds before token.text after small

/-- The tokens of a source shorter than four gibibytes tile it. -/
theorem tokenize_tiles (stripComments : Bool) (source : List Char)
    (short : byteLength source < 2 ^ 32) : Tiles source (tokenize stripComments source) := by
  have whole := flatMap_text_pieces stripComments source
  have small : 0 + byteLength ((pieces stripComments source).flatMap Piece.text) ≤ wordMax := by
    rw [whole]
    unfold wordMax
    omega
  constructor
  case texts => exact flatMap_text_tokenize stripComments source
  case starts =>
    intro token first
    unfold tokenize at first
    cases cut : pieces stripComments source with
    | nil => simp [cut, placeFrom] at first
    | cons piece others =>
      simp only [cut, placeFrom, List.head?_cons, Option.mem_def, Option.some.injEq] at first
      rw [← first, Span.first_ofBounds _ (by unfold wordMax; omega)]
  case contiguous => exact placeFrom_contiguous small
  case ends =>
    intro token last
    rw [stop_getLast?_placeFrom small token last, whole, Nat.zero_add]
  case selects => exact fun token listed => selects_of_mem_tokenize short listed
  case filled => exact fun token listed => text_ne_nil_of_mem_tokenize listed
  case separated =>
    have separated := pieces_separated stripComments source
    rw [← map_piece_placeFrom 0 (pieces stripComments source), List.isChain_map] at separated
    exact separated

/-- Letters of several bytes before, in and after a tag and a comment. -/
theorem tokenize_tiles_umlauts :
    byteLength "é\x7b$ä\x7d<!-- ü -->ß\x7b\x7d".toList < 2 ^ 32 ∧
      Tiles "é\x7b$ä\x7d<!-- ü -->ß\x7b\x7d".toList
        (tokenize true "é\x7b$ä\x7d<!-- ü -->ß\x7b\x7d".toList) :=
  ⟨by decide, tokenize_tiles true _ (by decide)⟩

end Stencil.Template
