import Mathlib.Data.List.Flatten
import Stencil.Proofs.Candidates

/-! # Where tokens meet

A candidate stands in braces and a comment in angle brackets, and of two
neighbouring tokens one is no literal text.  So whatever a template is cut in,
the last character before a cut closes something or the first one after it opens
something.

* `Delimited` — how comments and candidates begin and end;
* `Apart` — texts that meet at such a character;
* `tokenize_apart` — neighbouring tokens do;
* `eq_of_sublist` — no tokens can be dropped without a loss of text.
-/

namespace Stencil.Template

/-! ## The ends of a piece -/

/-- A comment or candidate begins with one of two characters and ends with one of
    two others. -/
def Delimited (piece : Piece) : Prop :=
  piece.kind ≠ .literal →
    ∃ first inner last, piece.text = first :: (inner ++ [last]) ∧ first ∈ ['{', '<'] ∧
      last ∈ ['}', '>']

theorem candidate?_delimited {text body after : List Char}
    (found : candidate? text = some (body, after)) : Delimited ⟨.candidate, body⟩ := by
  intro _
  obtain ⟨first, inner, candidate⟩ := isCandidate_of_candidate? found
  exact ⟨'{', first :: inner, '}', candidate.text_eq, by simp, by simp⟩

theorem comment?_delimited {text body after : List Char}
    (found : comment? text = some (body, after)) : Delimited ⟨.comment, body⟩ := by
  intro _
  obtain ⟨rest, inner, -, rfl, -⟩ := exists_of_comment? found
  exact ⟨'<', "!--".toList ++ inner ++ "--".toList, '>', by simp, by simp, by simp⟩

theorem cut?_delimited {stripComments : Bool} {text after : List Char} {piece : Piece}
    (found : cut? stripComments text = some (piece, after)) : Delimited piece := by
  rcases cut?_cases found with ⟨body, rfl, comment⟩ | ⟨body, rfl, candidate⟩
  · exact comment?_delimited comment
  · exact candidate?_delimited candidate

theorem prependLiteral_delimited {c : Char} {pieces : List Piece}
    (delimited : ∀ piece ∈ pieces, Delimited piece) :
    ∀ piece ∈ prependLiteral c pieces, Delimited piece := by
  have literal (text : List Char) : Delimited ⟨.literal, text⟩ := fun other => absurd rfl other
  unfold prependLiteral
  split <;> simp_all

theorem pieces_delimited (stripComments : Bool) (source : List Char) :
    ∀ piece ∈ pieces stripComments source, Delimited piece := by
  fun_induction pieces stripComments source with
  | case1 => simp
  | case2 c rest piece after found ih => simpa [cut?_delimited found] using ih
  | case3 c rest _ ih => exact prependLiteral_delimited ih

/-! ## Neighbours -/

/-- Whether the last character of one text closes something or the first of the
    other opens something. -/
def Apart (left right : List Char) : Prop :=
  (∃ last ∈ left.getLast?, last ∈ ['}', '>']) ∨ (∃ first ∈ right.head?, first ∈ ['{', '<'])

theorem Separated.apart {left right : Piece} (separated : Separated left right)
    (leftDelimited : Delimited left) (rightDelimited : Delimited right) :
    Apart left.text right.text := by
  -- One of the two is no literal text, and one of its ends lies at the seam.
  by_cases literal : left.kind = .literal
  · obtain ⟨first, inner, last, same, opens, -⟩ :=
      rightDelimited fun other => separated ⟨literal, other⟩
    exact .inr ⟨first, by simp [same], opens⟩
  · obtain ⟨first, inner, last, same, -, closes⟩ := leftDelimited literal
    exact .inl ⟨last, by simp [same, List.getLast?_cons], closes⟩

/-- Neighbouring tokens meet at a character that opens or closes something. -/
theorem tokenize_apart (stripComments : Bool) (source : List Char) :
    ((tokenize stripComments source).map Token.text).IsChain Apart := by
  have delimited := pieces_delimited stripComments source
  have chain := (pieces_separated stripComments source).imp_of_mem_imp
    fun left right leftListed rightListed separated =>
      Separated.apart separated (delimited left leftListed) (delimited right rightListed)
  rw [← map_piece_placeFrom 0 (pieces stripComments source), List.isChain_map] at chain
  exact (List.isChain_map Token.text).2 chain

/-- Tokens that have all the text of others are all of them. -/
theorem eq_of_sublist {kept tokens : List Token} (filled : ∀ token ∈ tokens, token.text ≠ [])
    (sublist : kept.Sublist tokens)
    (same : kept.flatMap Token.text = tokens.flatMap Token.text) : kept = tokens := by
  induction sublist with
  | slnil => rfl
  | cons token inner _ =>
    have shorter := (inner.flatMap Token.text).length_le
    have dropped := List.length_pos_iff.2 (filled token (.head _))
    have lengths := congrArg List.length same
    rw [List.flatMap_cons, List.length_append] at lengths
    omega
  | cons_cons token _ ih =>
    rw [List.flatMap_cons, List.flatMap_cons] at same
    rw [ih (fun other listed => filled other (.tail _ listed)) (List.append_cancel_left same)]

end Stencil.Template
