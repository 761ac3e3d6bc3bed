import Stencil.Proofs.Tiling
import Stencil.Template.LineEnding

/-! # Text around candidates

A text without braces makes no candidate.  In front of a template it becomes
part of the first piece, or a piece of its own; behind a template it becomes
part of the last one, or a piece of its own.

* `pieces_front` — the pieces of a template with plain text in front;
* `pieces_back` — the pieces of a template with plain text behind it.
-/

namespace Stencil.Template

variable {text body after front back : List Char} {others : List Piece}

/-! ## The first piece -/

theorem pieces_of_cut {stripComments : Bool} {piece : Piece}
    (found : cut? stripComments text = some (piece, after)) :
    pieces stripComments text = piece :: pieces stripComments after := by
  cases text with
  | nil => exact absurd (List.append_eq_nil_iff.1 (cut?_append found)).1 (cut?_text_ne_nil found)
  | cons c rest =>
    rw [pieces]
    split
    · rename_i other
      rw [found] at other
      cases other
      rfl
    · rename_i none
      rw [found] at none
      cases none

theorem pieces_of_uncut {stripComments : Bool} {c : Char}
    (none : cut? stripComments (c :: text) = none) :
    pieces stripComments (c :: text) = prependLiteral c (pieces stripComments text) := by
  rw [pieces]
  split
  · rename_i other
    rw [none] at other
    cases other
  · rfl

theorem pieces_of_candidate (found : candidate? text = some (body, after)) :
    pieces false text = ⟨.candidate, body⟩ :: pieces false after :=
  pieces_of_cut (by simp [cut?, found])

theorem pieces_of_literal {c : Char} (none : candidate? (c :: text) = none) :
    pieces false (c :: text) = prependLiteral c (pieces false text) :=
  pieces_of_uncut (by simp [cut?, none])

theorem candidate?_of_ne {c : Char} (other : c ≠ '{') : candidate? (c :: text) = none := by
  unfold candidate?
  split
  · rename_i same
    exact absurd (List.cons.inj same).1 other
  · rfl

/-- Induction along the pieces of a text: a character that begins no candidate, or
    a candidate, in front of the rest. -/
theorem piecewise {motive : List Char → Prop} (nil : motive [])
    (literal : ∀ c text, candidate? (c :: text) = none → motive text → motive (c :: text))
    (candidate : ∀ text body after, candidate? text = some (body, after) → motive after →
      motive text)
    (text : List Char) : motive text := by
  induction size : text.length using Nat.strongRecOn generalizing text with
  | ind n ih =>
    cases text with
    | nil => exact nil
    | cons c rest =>
      cases found : candidate? (c :: rest) with
      | none => exact literal c rest found (ih rest.length (by simp [← size]) rest rfl)
      | some cut =>
        -- A candidate is not empty, so what follows it is shorter.
        obtain ⟨body, after⟩ := cut
        have parts := congrArg List.length (candidate?_append found)
        have filled := List.length_pos_iff.2 (candidate?_ne_nil found)
        rw [List.length_append] at parts
        exact candidate _ body after found (ih after.length (by omega) after rfl)

/-- Where comments are kept there are literals and candidates only. -/
theorem kind_of_mem_pieces {piece : Piece} (listed : piece ∈ pieces false text) :
    piece.kind = .literal ∨ piece.kind = .candidate := by
  induction text using piecewise with
  | nil => simp [pieces] at listed
  | literal c rest none ih =>
    rw [pieces_of_literal none] at listed
    unfold prependLiteral at listed
    split at listed
    · rename_i same
      rcases List.mem_cons.1 listed with rfl | inside
      · exact .inl rfl
      · exact ih (same ▸ .tail _ inside)
    · rcases List.mem_cons.1 listed with rfl | inside
      · exact .inl rfl
      · exact ih inside
  | candidate text body after found ih =>
    rw [pieces_of_candidate found] at listed
    rcases List.mem_cons.1 listed with rfl | inside
    · exact .inr rfl
    · exact ih inside

theorem text_infix_of_mem {piece : Piece} (listed : piece ∈ others) (rest : List Char) :
    piece.text <:+: others.flatMap Piece.text ++ rest :=
  (List.infix_of_mem_flatten (List.mem_map_of_mem listed)).trans
    (List.prefix_append _ rest).isInfix

/-! ## Plain text in front -/

theorem pieces_front (plain : '{' ∉ front) (text : List Char) :
    pieces false (front ++ text) =
      front.foldr prependLiteral (pieces false text) := by
  induction front with
  | nil => rfl
  | cons c front ih =>
    obtain ⟨other, later⟩ := not_or.1 (mt List.mem_cons.2 plain)
    rw [List.cons_append, pieces_of_literal (candidate?_of_ne (Ne.symm other)), ih later]
    rfl

theorem pieces_plain (plain : '{' ∉ text) :
    pieces false text = text.foldr prependLiteral [] := by
  simpa [pieces] using pieces_front plain []

/-- A literal takes up the text in front of it. -/
theorem foldr_prependLiteral_literal (front text : List Char) :
    front.foldr prependLiteral (⟨.literal, text⟩ :: others) =
      ⟨.literal, front ++ text⟩ :: others := by
  induction front with
  | nil => rfl
  | cons c front ih =>
    rw [List.foldr_cons, ih]
    rfl

theorem foldr_prependLiteral (filled : front ≠ [])
    (apart : ∀ piece ∈ others.head?, piece.kind ≠ .literal) :
    front.foldr prependLiteral others = ⟨.literal, front⟩ :: others := by
  obtain ⟨start, c, rfl⟩ := (List.eq_nil_or_concat front).resolve_left filled
  have last : prependLiteral c others = ⟨.literal, [c]⟩ :: others := by
    unfold prependLiteral
    split
    · exact absurd rfl (apart _ rfl)
    · rfl
  rw [List.concat_eq_append, List.foldr_append, List.foldr_cons, List.foldr_nil, last]
  exact foldr_prependLiteral_literal start [c]

/-- Candidates behind plain text leave it a piece of its own. -/
theorem foldr_prependLiteral_append (apart : ∀ piece ∈ others.head?, piece.kind ≠ .literal) :
    front.foldr prependLiteral others = front.foldr prependLiteral [] ++ others := by
  by_cases filled : front = []
  · rw [filled]
    rfl
  · rw [foldr_prependLiteral filled apart, foldr_prependLiteral filled (by simp)]
    rfl

theorem normalizeLineEndings_plain (plain : '\r' ∉ front) (text : List Char) :
    normalizeLineEndings (front ++ text) = front ++ normalizeLineEndings text := by
  induction front with
  | nil => rfl
  | cons c front ih =>
    obtain ⟨other, later⟩ := not_or.1 (mt List.mem_cons.2 plain)
    rw [List.cons_append, normalizeLineEndings, ih later, List.cons_append]
    rintro rest rfl -
    exact other rfl

theorem normalizeLineEndings_eq (plain : '\r' ∉ text) : normalizeLineEndings text = text := by
  simpa [normalizeLineEndings] using normalizeLineEndings_plain plain []

/-! ## Plain text behind -/

/-- Puts literal text behind pieces, growing a literal that is there already. -/
def appendLiteral (back : List Char) : List Piece → List Piece
  | [] => back.foldr prependLiteral []
  | [⟨.literal, text⟩] => [⟨.literal, text ++ back⟩]
  | piece :: others => piece :: appendLiteral back others

theorem appendLiteral_candidate (back body : List Char) (others : List Piece) :
    appendLiteral back (⟨.candidate, body⟩ :: others) =
      ⟨.candidate, body⟩ :: appendLiteral back others := rfl

theorem appendLiteral_prependLiteral (back : List Char) (c : Char) (parts : List Piece) :
    appendLiteral back (prependLiteral c parts) = prependLiteral c (appendLiteral back parts) := by
  match parts with
  | [] =>
    cases back with
    | nil => rfl
    | cons d back =>
      show [(⟨.literal, c :: d :: back⟩ : Piece)] = prependLiteral c ((d :: back).foldr prependLiteral [])
      rw [foldr_prependLiteral (List.cons_ne_nil d back) (by simp)]
      rfl
  | [⟨.literal, text⟩] => rfl
  | ⟨.literal, text⟩ :: next :: others => rfl
  | ⟨.candidate, text⟩ :: others => rfl
  | ⟨.comment, text⟩ :: others => rfl

theorem closeCandidate_eq_none {quote : Option Char} (plain : '}' ∉ text) :
    closeCandidate quote text = none := by
  fun_induction closeCandidate quote text with
  | case1 => rfl
  | case2 => simp at plain
  | case3 c rest _ ih => simp [ih (fun inside => plain (.tail _ inside))]
  | case4 quote c rest ih => simp [ih (fun inside => plain (.tail _ inside))]

/-- A candidate is the same whatever text without a closing brace follows. -/
theorem closeCandidate_back {quote : Option Char} (plain : '}' ∉ back) :
    closeCandidate quote (text ++ back) =
      (closeCandidate quote text).map fun (body, after) => (body, after ++ back) := by
  fun_induction closeCandidate quote text with
  | case1 => exact closeCandidate_eq_none plain
  | case2 => simp [closeCandidate]
  | case3 c rest notBrace ih =>
    rw [List.cons_append, closeCandidate, if_neg notBrace, ih, Option.map_map, Option.map_map]
    rfl
  | case4 quote c rest ih =>
    rw [List.cons_append, closeCandidate, ih, Option.map_map, Option.map_map]
    rfl

theorem candidate?_eq_none (plain : '}' ∉ text) : candidate? text = none := by
  unfold candidate?
  split
  · rename_i first rest
    simp only [List.mem_cons, not_or] at plain
    rw [closeCandidate_eq_none plain.2.2]
    simp
  · rfl

theorem candidate?_back (plain : '}' ∉ back) (text : List Char) :
    candidate? (text ++ back) =
      (candidate? text).map fun (body, after) => (body, after ++ back) := by
  match text with
  | [] => exact candidate?_eq_none plain
  | [c] =>
    by_cases brace : c = '{'
    · -- What would close the candidate is not in the text behind.
      subst brace
      cases back with
      | nil => rfl
      | cons first back =>
        show (if isQuote first || first == '}' then none else _) = none
        rw [closeCandidate_eq_none fun inside => plain (.tail _ inside)]
        simp
    · rw [List.cons_append, candidate?_of_ne brace, candidate?_of_ne brace]
      rfl
  | c :: first :: rest =>
    by_cases brace : c = '{'
    · subst brace
      simp only [List.cons_append, candidate?, closeCandidate_back plain]
      split <;> simp [Function.comp_def]
    · rw [List.cons_append, candidate?_of_ne brace, candidate?_of_ne brace]
      rfl

/-- Text without braces behind a template goes on with its last literal. -/
theorem pieces_back (noOpening : '{' ∉ back) (noClosing : '}' ∉ back) (text : List Char) :
    pieces false (text ++ back) = appendLiteral back (pieces false text) := by
  induction text using piecewise with
  | nil => simpa [pieces, appendLiteral] using pieces_plain noOpening
  | literal c rest none ih =>
    have extended : candidate? (c :: (rest ++ back)) = Option.none := by
      rw [← List.cons_append, candidate?_back noClosing, none, Option.map_none]
    rw [List.cons_append, pieces_of_literal extended, pieces_of_literal none,
      appendLiteral_prependLiteral, ih]
  | candidate text body after found ih =>
    have extended : candidate? (text ++ back) = some (body, after ++ back) := by
      rw [candidate?_back noClosing, found, Option.map_some]
    rw [pieces_of_candidate extended, pieces_of_candidate found, appendLiteral_candidate, ih]

/-- The last piece decides where the text behind goes. -/
theorem appendLiteral_concat (back : List Char) (parts : List Piece) (last : Piece) :
    appendLiteral back (parts ++ [last]) = parts ++ appendLiteral back [last] := by
  induction parts with
  | nil => rfl
  | cons first parts ih =>
    obtain ⟨next, later, same⟩ := List.exists_cons_of_ne_nil (List.concat_ne_nil last parts)
    rw [List.cons_append, same, appendLiteral, ← same, ih, List.cons_append]
    simp

end Stencil.Template
