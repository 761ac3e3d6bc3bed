import Stencil.Proofs.Candidates
import Stencil.Proofs.EndTags
import Stencil.Proofs.Frames
import Stencil.Proofs.InertText
import Stencil.Proofs.PlainText

/-! # Comments

A comment begins with a brace and a star and ends with a star and a brace.  The
template is cut into candidates before anything is known of comments, so that
both ends count only where they come to stand in a candidate: what the comment
holds decides whether it begins, and whether it ends.

* `comment` — a comment with a body;
* `OpensComment` / `ClosesComment` — whether its ends are seen;
* `compile_comment` — what becomes of a comment and the texts around it.
-/

namespace Stencil.Program

open Stencil.Source (LineIndex)
open Stencil.Tag
open Stencil.Template

/-- A comment. -/
def comment (body : List Char) : List Char := '{' :: '*' :: (body ++ ['*', '}'])

/-- Whether the beginning of a comment is seen: its first piece is a candidate. -/
def OpensComment (body : List Char) : Prop :=
  (pieces false (comment body)).head?.map Piece.kind = some .candidate

/-- Whether the end of a comment is seen: its last piece is a candidate. -/
def ClosesComment (body : List Char) : Prop :=
  (pieces false (comment body)).getLast?.map Piece.kind = some .candidate

instance (body : List Char) : Decidable (OpensComment body) := inferInstanceAs (Decidable (_ = _))

instance (body : List Char) : Decidable (ClosesComment body) := inferInstanceAs (Decidable (_ = _))

/-- Texts as they are compiled; empty ones leave nothing. -/
def texts (parts : List (List Char)) : List Instruction := (parts.filter (· ≠ [])).map .text

/-! ## The pieces of a comment -/

section Pieces

variable {ignoreCase : Bool} {body : List Char}

/-- Only the last piece of a comment can hold its end. -/
theorem pieces_comment (endless : Endless ignoreCase ('*' :: body)) :
    ∃ front last, pieces false (comment body) = front ++ [last] ∧
      (∀ piece ∈ front, Endless ignoreCase piece.text) ∧
      (last.kind = .candidate →
        ∃ text, Endless ignoreCase text ∧ last.text = text ++ ['*', '}']) := by
  have whole := flatMap_text_pieces false (comment body)
  have filled := pieces_ne_nil false (comment body)
  have candidates := @isCandidate_of_mem_pieces false (comment body)
  rcases List.eq_nil_or_concat (pieces false (comment body)) with nothing | ⟨front, last, parts⟩
  · rw [nothing] at whole
    cases whole
  rw [List.concat_eq_append] at parts
  rw [parts] at whole filled candidates
  -- All but the last brace of the comment.
  have inside : Endless ignoreCase ('{' :: '*' :: (body ++ ['*'])) :=
    (endless.concat (c := '*') (by decide)).opening
  obtain ⟨start, c, ends⟩ := (List.eq_nil_or_concat last.text).resolve_left (filled last (by simp))
  rw [List.concat_eq_append] at ends
  have split : front.flatMap Piece.text ++ start ++ [c] =
      '{' :: '*' :: (body ++ ['*']) ++ ['}'] := by
    rw [List.flatMap_append, List.flatMap_singleton, ends] at whole
    rw [List.append_assoc, whole]
    simp [comment]
  obtain ⟨before, brace⟩ := List.append_inj' split rfl
  obtain rfl := List.cons.inj brace |>.1
  refine ⟨front, last, parts, ?_, ?_⟩
  · intro piece listed
    apply inside.of_infix
    rw [← before]
    exact text_infix_of_mem listed start
  · intro kind
    obtain ⟨first, inner, isCandidate⟩ := candidates (by simp) kind
    have same : start = '{' :: first :: inner :=
      (List.append_inj' (ends.symm.trans isCandidate.text_eq) rfl).1
    obtain ⟨text, d, filled⟩ := (List.eq_nil_or_concat start).resolve_left (by simp [same])
    rw [List.concat_eq_append] at filled
    rw [filled, ← List.append_assoc] at before
    have outer : front.flatMap Piece.text ++ text ++ [d] = '{' :: '*' :: body ++ ['*'] := before
    obtain ⟨within, star⟩ := List.append_inj' outer rfl
    obtain rfl := List.cons.inj star |>.1
    refine ⟨text, inside.of_infix ?_, by rw [ends, filled, List.append_assoc]; rfl⟩
    refine ⟨front.flatMap Piece.text, ['*'], ?_⟩
    rw [within]
    rfl

/-- A comment whose beginning is not seen begins with its brace as a literal. -/
theorem pieces_of_unseen (unseen : ¬ OpensComment body) :
    ∃ rest others, pieces false (comment body) = ⟨.literal, '{' :: rest⟩ :: others := by
  cases found : candidate? (comment body) with
  | some cut =>
    refine absurd ?_ unseen
    rw [OpensComment, pieces_of_candidate found]
    rfl
  | none =>
    rw [comment, pieces_of_literal found]
    unfold prependLiteral
    split
    · exact ⟨_, _, rfl⟩
    · exact ⟨_, _, rfl⟩

theorem pieces_of_seen (seen : OpensComment body) :
    ∃ text others, pieces false (comment body) = ⟨.candidate, '{' :: '*' :: text⟩ :: others := by
  cases found : candidate? (comment body) with
  | none =>
    rw [OpensComment, comment, pieces_of_literal found] at seen
    unfold prependLiteral at seen
    split at seen
    · cases seen
    · cases seen
  | some cut =>
    obtain ⟨opening, after⟩ := cut
    obtain ⟨first, inner, isCandidate⟩ := isCandidate_of_candidate? found
    have whole := candidate?_append found
    rw [isCandidate.text_eq] at whole
    obtain ⟨rfl, -⟩ := List.cons.inj (List.cons.inj whole).2
    exact ⟨_, _, by rw [pieces_of_candidate found, isCandidate.text_eq]⟩

end Pieces

/-! ## Runs -/

section Runs

variable {compiler : Compiler} {origin : Origin} {lines : LineIndex} {state : State}
  {token : Token} {tokens : List Token} {text : List Char}

theorem step_literal (markup : state.region = .markup) (kind : token.kind = .literal) :
    compiler.step origin lines state token =
      .ok { state, instructions := [.text token.text] } := by
  simp [Compiler.step, kind, markup]

theorem run_plain (markup : state.region = .markup)
    (plain : tokens.map Token.piece = text.foldr prependLiteral []) :
    (compiler.run origin lines state tokens).result = .ok (state, texts [text]) := by
  cases text with
  | nil =>
    obtain rfl := List.map_eq_nil_iff.1 plain
    rfl
  | cons c text =>
    rw [foldr_prependLiteral (List.cons_ne_nil c text) (by simp)] at plain
    obtain ⟨token, rfl, piece⟩ := List.map_eq_singleton_iff.1 plain
    have kind : token.kind = .literal := congrArg Piece.kind piece
    have written : token.text = c :: text := congrArg Piece.text piece
    exact run_cons_ok_iff.2 ⟨_, [], step_literal markup kind, rfl, by simp [written, texts]⟩

/-- A comment that is not closed where it is opened drops what follows. -/
theorem step_comment_opens (markup : state.region = .markup) (kind : token.kind = .candidate)
    (opens : token.text = '{' :: '*' :: text)
    (endless : Endless compiler.options.caseInsensitiveTags token.text) :
    compiler.step origin lines state token = .ok { state := { state with region := .ignored } } := by
  have stays := not_closesRegion_of_endless endless
  obtain ⟨found, classified, isOpening⟩ :=
    classify?_comment compiler.options.caseInsensitiveTags text
  rw [← opens] at classified
  rw [step_of_active ⟨kind, markup, stays⟩ classified, Compiler.ordinaryTag]
  simp only [isOpening]

/-- The opening of a comment is followed by text that is dropped. -/
theorem run_dropped (inside : state.region = .ignored)
    (endless : ∀ token ∈ tokens, token.kind = .candidate →
      Endless compiler.options.caseInsensitiveTags token.text) :
    (compiler.run origin lines state tokens).result = .ok (state, []) := by
  rw [run_ignored inside]
  rintro token listed ⟨kind, ends⟩
  have free := endless token listed kind
  simp [endsRegion, free .ignoreClose (by decide), free .rawCodeClose (by decide)] at ends

/-- The end of a comment leads back to tags, also where the comment begins with it. -/
theorem step_comment_closes (inside : state.region = .markup ∨ state.region = .ignored)
    (kind : token.kind = .candidate) (closes : token.text = text ++ ['*', '}'])
    (endless : Endless compiler.options.caseInsensitiveTags text) :
    compiler.step origin lines state token = .ok { state := { state with region := .markup } } := by
  obtain ⟨noRawCode, ends⟩ := endless.comment
  have settled : settleRegion? compiler.options state.region (text ++ ['*', '}']) =
      some (.markup, []) := by
    rcases inside with markup | ignored
    · simp [settleRegion?, markup, noRawCode, ends, Region.leave]
    · simp [settleRegion?, ignored, noRawCode, ends, Region.leave]
  simp only [Compiler.step, kind, Compiler.candidate, closes, settled]

/-- A comment whose ends are both seen leaves nothing. -/
theorem run_comment {front : List Piece} {last : Piece} {others : List Piece}
    (markup : state.region = .markup) (pieces : tokens.map Token.piece = front ++ [last])
    (opens : front ++ [last] = ⟨.candidate, '{' :: '*' :: text⟩ :: others)
    (endless : ∀ piece ∈ front, Endless compiler.options.caseInsensitiveTags piece.text)
    (kind : last.kind = .candidate)
    (closes : ∃ text, Endless compiler.options.caseInsensitiveTags text ∧
      last.text = text ++ ['*', '}']) :
    (compiler.run origin lines state tokens).result = .ok (state, []) := by
  obtain ⟨stretch, endless', ends⟩ := closes
  obtain ⟨before, ending, rfl, rfl, single⟩ := List.map_eq_append_iff.1 pieces
  obtain ⟨closer, rfl, rfl⟩ := List.map_eq_singleton_iff.1 single
  have back : { state with region := .markup } = state := by rw [← markup]
  cases before with
  | nil =>
    -- The comment is a single candidate, which both begins and ends it.
    have closed := @step_comment_closes compiler origin lines state closer stretch (.inl markup)
      kind ends endless'
    rw [back] at closed
    exact run_cons_ok_iff.2 ⟨_, [], closed, rfl, rfl⟩
  | cons opener before =>
    obtain ⟨first, -⟩ := List.cons.inj opens
    have opened := @step_comment_opens compiler origin lines state opener text markup
      (congrArg Piece.kind first) (congrArg Piece.text first) (endless _ (.head _))
    have dropped := @run_dropped compiler origin lines { state with region := .ignored } before rfl
      fun token listed _ => endless _ (.tail _ (List.mem_map_of_mem listed))
    have closed := @step_comment_closes compiler origin lines { state with region := .ignored }
      closer stretch (.inr rfl) kind ends endless'
    have closing : (compiler.run origin lines { state with region := .ignored } [closer]).result =
        .ok (state, []) :=
      run_cons_ok_iff.2 ⟨_, [], closed, run_nil_ok_iff.2 ⟨back.symm, rfl⟩, rfl⟩
    have rest := run_append_ok_iff.2 ⟨_, _, _, dropped, closing, rfl⟩
    exact run_cons_ok_iff.2 ⟨_, _, opened, rest, rfl⟩

/-- A comment of which only the beginning is seen drops everything behind it. -/
theorem run_comment_unclosed {front : List Piece} {rest : List Char} {others : List Piece}
    (markup : state.region = .markup)
    (pieces : tokens.map Token.piece = front ++ [⟨.literal, rest⟩])
    (opens : front = ⟨.candidate, '{' :: '*' :: text⟩ :: others)
    (endless : ∀ piece ∈ front, Endless compiler.options.caseInsensitiveTags piece.text) :
    (compiler.run origin lines state tokens).result =
      .ok ({ state with region := .ignored }, []) := by
  subst opens
  obtain ⟨opener, later, rfl, first, tails⟩ := List.map_eq_cons_iff.1 pieces
  have opened := @step_comment_opens compiler origin lines state opener text markup
    (congrArg Piece.kind first) (congrArg Piece.text first)
    (by rw [← first] at endless; exact endless _ (.head _))
  refine run_cons_ok_iff.2 ⟨_, [], opened, run_dropped rfl ?_, rfl⟩
  intro token listed kind
  have placed : token.piece ∈ later.map Token.piece := List.mem_map_of_mem listed
  rw [tails] at placed
  rcases List.mem_append.1 placed with inFront | isLast
  · exact endless _ (.tail _ inFront)
  · have literal : token.kind = .literal := congrArg Piece.kind (List.mem_singleton.1 isLast)
    rw [kind] at literal
    cases literal

end Runs

/-! ## Templates around a comment -/

section Templates

variable {body front back : List Char}

theorem normalizeLineEndings_star (body rest : List Char) :
    normalizeLineEndings (body ++ '*' :: rest) =
      normalizeLineEndings body ++ '*' :: normalizeLineEndings rest := by
  fun_induction normalizeLineEndings body with
  | case1 body ih =>
    rw [List.cons_append, List.cons_append, normalizeLineEndings, ih, List.cons_append]
  | case2 c body noPair ih =>
    rw [List.cons_append, normalizeLineEndings, ih, List.cons_append]
    -- A line feed behind the character is one of the body.
    intro rest return_ feed
    cases body with
    | nil => exact absurd (List.cons.inj feed).1 (by decide)
    | cons d body => exact noPair body return_ (by rw [(List.cons.inj feed).1])
  | case3 =>
    rw [List.nil_append, normalizeLineEndings]
    · rfl
    · intro _ star
      exact absurd star (by decide)

/-- No end tag arises where a carriage return is dropped. -/
theorem endless_normalizeLineEndings {ignoreCase : Bool}
    (endless : Endless ignoreCase ('*' :: body)) :
    Endless ignoreCase ('*' :: normalizeLineEndings body) := by
  rw [endless_iff] at endless ⊢
  intro kind listed mark isMark inside
  -- What stands for a tag has no line break, so it stood in the body already.
  have unbroken : ∀ kind ∈ regionEnds, ∀ mark ∈ endMarks kind, '\r' ∉ mark ∧ '\n' ∉ mark := by
    decide
  have same (ignoreCase : Bool) :
      letterOf ignoreCase '\r' = '\r' ∧ letterOf ignoreCase '\n' = '\n' := by
    cases ignoreCase <;> decide
  obtain ⟨stretch, within, rfl⟩ := List.infix_map_iff.1 inside
  have plain : ∀ c ∈ stretch, ¬ Php.IsBreak c := by
    obtain ⟨noReturn, noFeed⟩ := unbroken kind listed _ isMark
    rintro c among (rfl | rfl)
    · exact noReturn (List.mem_map.2 ⟨_, among, (same ignoreCase).1⟩)
    · exact noFeed (List.mem_map.2 ⟨_, among, (same ignoreCase).2⟩)
  have breaks : Php.MoreBreaks ('*' :: normalizeLineEndings body) ('*' :: body) :=
    .keep (Php.normalizeLineEndings_moreBreaks body)
  exact endless kind listed _ isMark (((breaks.infix_iff plain).1 within).map _)

theorem normalizeLineEndings_comment (frontPlain : '\r' ∉ front) (backPlain : '\r' ∉ back) :
    normalizeLineEndings (front ++ comment body ++ back) =
      front ++ (comment (normalizeLineEndings body) ++ back) := by
  have ending : normalizeLineEndings ('}' :: back) = '}' :: back :=
    normalizeLineEndings_eq (by simp [backPlain])
  have opening : '\r' ∉ ['{', '*'] := by decide
  have whole : comment body ++ back = ['{', '*'] ++ (body ++ '*' :: '}' :: back) := by
    simp [comment]
  rw [List.append_assoc, whole, normalizeLineEndings_plain frontPlain,
    normalizeLineEndings_plain opening, normalizeLineEndings_star, ending]
  simp [comment]

end Templates

/-! ## Compiling comments -/

section Compiling

variable {compiler : Compiler} {origin : Origin} {front body back : List Char}

theorem map_piece_tokens_comment (kept : compiler.options.stripComments = false)
    (frontPlain : ∀ c ∈ ['{', '\r'], c ∉ front) (backPlain : ∀ c ∈ ['{', '}', '\r'], c ∉ back) :
    (compiler.tokens (front ++ comment body ++ back)).map Token.piece =
      front.foldr prependLiteral
        (appendLiteral back (pieces false (comment (normalizeLineEndings body)))) := by
  rw [Compiler.tokens, normalizeLineEndings_comment (frontPlain _ (by decide))
    (backPlain _ (by decide)), kept, tokenize, map_piece_placeFrom,
    pieces_front (frontPlain _ (by decide)),
    pieces_back (backPlain _ (by decide)) (backPlain _ (by decide))]

theorem texts_append (left right : List (List Char)) :
    texts (left ++ right) = texts left ++ texts right := by
  simp [texts]

theorem mem_of_text_mem_texts {parts : List (List Char)} {content : List Char}
    (written : .text content ∈ texts parts) : content ∈ parts := by
  obtain ⟨part, listed, same⟩ := List.mem_map.1 written
  cases same
  exact List.mem_of_mem_filter listed

/-- Where the beginning of a comment is seen, the text in front of it stays apart. -/
theorem exists_tokens_comment (kept : compiler.options.stripComments = false)
    (frontPlain : ∀ c ∈ ['{', '\r'], c ∉ front) (backPlain : ∀ c ∈ ['{', '}', '\r'], c ∉ back)
    (opens : OpensComment (normalizeLineEndings body)) {first : List Piece} {last : Piece}
    (parts : pieces false (comment (normalizeLineEndings body)) = first ++ [last]) :
    ∃ before inside, compiler.tokens (front ++ comment body ++ back) = before ++ inside ∧
      before.map Token.piece = front.foldr prependLiteral [] ∧
      inside.map Token.piece = first ++ appendLiteral back [last] := by
  have tokens := @map_piece_tokens_comment compiler front body back kept frontPlain backPlain
  rw [OpensComment, parts] at opens
  have apart : ∀ piece ∈ (first ++ appendLiteral back [last]).head?, piece.kind ≠ .literal := by
    cases first with
    | nil =>
      obtain ⟨kind, text⟩ := last
      obtain rfl : kind = .candidate := Option.some.inj opens
      rintro _ ⟨⟩
      simp
    | cons piece first =>
      have kind : piece.kind = .candidate := Option.some.inj opens
      rintro _ ⟨⟩
      simp [kind]
  rw [parts, appendLiteral_concat, foldr_prependLiteral_append apart] at tokens
  exact List.map_eq_append_iff.1 tokens

theorem runOver_comment (kept : compiler.options.stripComments = false)
    (frontPlain : ∀ c ∈ ['{', '\r'], c ∉ front) (backPlain : ∀ c ∈ ['{', '}', '\r'], c ∉ back)
    (endless : Endless compiler.options.caseInsensitiveTags ('*' :: body))
    (opens : OpensComment (normalizeLineEndings body))
    (closes : ClosesComment (normalizeLineEndings body)) :
    compiler.runOver (front ++ comment body ++ back) origin = .ok ({}, texts [front, back]) := by
  obtain ⟨first, last, parts, frontEndless, ends⟩ :=
    pieces_comment (endless_normalizeLineEndings endless)
  obtain ⟨text, others, opening⟩ := pieces_of_seen opens
  rw [ClosesComment, parts, List.getLast?_concat, Option.map_some, Option.some.injEq] at closes
  have lastOnly : appendLiteral back [last] = [last] ++ back.foldr prependLiteral [] := by
    obtain ⟨kind, text⟩ := last
    cases closes
    rfl
  obtain ⟨before, rest, same, beforePieces, restPieces⟩ :=
    exists_tokens_comment kept frontPlain backPlain opens parts
  rw [lastOnly, ← List.append_assoc] at restPieces
  obtain ⟨inside, behind, rfl, insidePieces, behindPieces⟩ := List.map_eq_append_iff.1 restPieces
  rw [Compiler.runOver, same]
  refine run_append_ok_iff.2 ⟨_, _, _, run_plain rfl beforePieces, ?_, texts_append [front] [back]⟩
  refine run_append_ok_iff.2 ⟨_, [], _, ?_, run_plain rfl behindPieces, rfl⟩
  exact run_comment rfl insidePieces (parts.symm.trans opening) frontEndless closes (ends closes)

theorem runOver_comment_unclosed (kept : compiler.options.stripComments = false)
    (frontPlain : ∀ c ∈ ['{', '\r'], c ∉ front) (backPlain : ∀ c ∈ ['{', '}', '\r'], c ∉ back)
    (endless : Endless compiler.options.caseInsensitiveTags ('*' :: body))
    (opens : OpensComment (normalizeLineEndings body))
    (unseen : ¬ ClosesComment (normalizeLineEndings body)) :
    compiler.runOver (front ++ comment body ++ back) origin =
      .ok ({ region := .ignored }, texts [front]) := by
  obtain ⟨first, last, parts, frontEndless, ends⟩ :=
    pieces_comment (endless_normalizeLineEndings endless)
  obtain ⟨text, others, opening⟩ := pieces_of_seen opens
  obtain ⟨before, inside, same, beforePieces, insidePieces⟩ :=
    exists_tokens_comment kept frontPlain backPlain opens parts
  have isLiteral : last.kind = .literal := by
    have listed : last ∈ pieces false (comment (normalizeLineEndings body)) := by simp [parts]
    refine (kind_of_mem_pieces listed).resolve_right fun kind => unseen ?_
    rw [ClosesComment, parts, List.getLast?_concat, Option.map_some, kind]
  obtain ⟨kind, rest⟩ := last
  obtain rfl : kind = .literal := isLiteral
  -- The last piece is not the first one, which is a candidate.
  obtain ⟨others, isFirst⟩ : ∃ others, first = ⟨.candidate, '{' :: '*' :: text⟩ :: others := by
    rw [parts] at opening
    cases first with
    | nil => cases opening
    | cons piece first => exact ⟨first, by rw [(List.cons.inj opening).1]⟩
  rw [Compiler.runOver, same]
  refine run_append_ok_iff.2 ⟨_, _, _, run_plain rfl beforePieces, ?_, (List.append_nil _).symm⟩
  exact run_comment_unclosed rfl insidePieces isFirst frontEndless

theorem head_runOver_comment (kept : compiler.options.stripComments = false)
    (frontPlain : ∀ c ∈ ['{', '\r'], c ∉ front) (backPlain : ∀ c ∈ ['{', '}', '\r'], c ∉ back)
    (unseen : ¬ OpensComment (normalizeLineEndings body)) {final : State}
    {instructions : List Instruction}
    (ran : compiler.runOver (front ++ comment body ++ back) origin = .ok (final, instructions)) :
    ∃ rest, instructions.head? = some (.text (front ++ '{' :: rest)) := by
  have tokens := @map_piece_tokens_comment compiler front body back kept frontPlain backPlain
  obtain ⟨rest, others, opening⟩ := pieces_of_unseen unseen
  obtain ⟨more, later, grown⟩ : ∃ more later,
      appendLiteral back (⟨.literal, '{' :: rest⟩ :: others) = ⟨.literal, '{' :: more⟩ :: later := by
    cases others with
    | nil => exact ⟨rest ++ back, [], rfl⟩
    | cons next others => exact ⟨rest, appendLiteral back (next :: others), rfl⟩
  rw [opening, grown, foldr_prependLiteral_literal] at tokens
  obtain ⟨first, later, same, piece, -⟩ := List.map_eq_cons_iff.1 tokens
  rw [Compiler.runOver, same] at ran
  obtain ⟨effect, written, stepped, -, rfl⟩ := run_cons_ok_iff.1 ran
  have kind : first.kind = .literal := congrArg Piece.kind piece
  have text : first.text = front ++ '{' :: more := congrArg Piece.text piece
  rw [step_literal rfl kind, Except.ok.injEq] at stepped
  exact ⟨more, by rw [← stepped, text]; rfl⟩

end Compiling

/-- A comment is removed and nothing else exactly if its beginning is seen and its
    end, too, or nothing stands behind it; if only the beginning is seen, all that
    stands behind is lost.  No end of another region may stand in the comment. -/
theorem compile_comment (compiler : Compiler) (origin : Origin) (front body back : List Char)
    (kept : compiler.options.stripComments = false)
    (frontPlain : ∀ c ∈ ['{', '\r'], c ∉ front) (backPlain : ∀ c ∈ ['{', '}', '\r'], c ∉ back)
    (endless : Endless compiler.options.caseInsensitiveTags ('*' :: body)) :
    ((compiler.compile (front ++ comment body ++ back) origin).result =
        .ok ⟨texts [front, back]⟩ ↔
      OpensComment (normalizeLineEndings body) ∧
        (back = [] ∨ ClosesComment (normalizeLineEndings body))) ∧
    (OpensComment (normalizeLineEndings body) → ¬ ClosesComment (normalizeLineEndings body) →
      (compiler.compile (front ++ comment body ++ back) origin).result = .ok ⟨texts [front]⟩) := by
  have unclosed (opens : OpensComment (normalizeLineEndings body))
      (unseen : ¬ ClosesComment (normalizeLineEndings body)) :
      (compiler.compile (front ++ comment body ++ back) origin).result = .ok ⟨texts [front]⟩ :=
    compile_ok_iff.2 ⟨_, runOver_comment_unclosed kept frontPlain backPlain endless opens unseen,
      State.spans_initial .ignored⟩
  refine ⟨⟨fun compiled => ?_, ?_⟩, unclosed⟩
  · obtain ⟨final, ran, -⟩ := compile_ok_iff.1 compiled
    have opens : OpensComment (normalizeLineEndings body) := by
      by_contra unseen
      obtain ⟨rest, first⟩ := head_runOver_comment kept frontPlain backPlain unseen ran
      have brace : '{' ∈ front ++ '{' :: rest := by simp
      -- Neither text has the brace that is the first of the comment.
      have listed := mem_of_text_mem_texts (List.mem_of_head? first)
      rcases List.mem_cons.1 listed with same | later
      · exact frontPlain _ (by decide) (same ▸ brace)
      · exact backPlain _ (by decide) (List.mem_singleton.1 later ▸ brace)
    refine ⟨opens, ?_⟩
    by_contra neither
    obtain ⟨filled, unseen⟩ := not_or.1 neither
    rw [unclosed opens unseen, Except.ok.injEq, Program.mk.injEq] at compiled
    have nothing : texts [back] = [] :=
      List.append_right_eq_self.1 ((texts_append [front] [back]).symm.trans compiled.symm)
    simp [texts, filled] at nothing
  · rintro ⟨opens, nothing | closes⟩
    · have same : texts [front, back] = texts [front] := by
        simp [texts, nothing, List.filter_cons]
      by_cases closes : ClosesComment (normalizeLineEndings body)
      · exact compile_ok_iff.2 ⟨_, runOver_comment kept frontPlain backPlain endless opens closes,
          State.spans_initial .markup⟩
      · rw [same]
        exact unclosed opens closes
    · exact compile_ok_iff.2 ⟨_, runOver_comment kept frontPlain backPlain endless opens closes,
        State.spans_initial .markup⟩

/-- A variable in a comment takes the comment's end for itself, and what stands
    behind is lost. -/
theorem compile_comment_variable :
    let compiler : Compiler := ⟨{}, .empty⟩
    let body := " \x7b$x\x7d ".toList
    compiler.options.stripComments = false ∧
    (∀ c ∈ ['{', '\r'], c ∉ ['a']) ∧ (∀ c ∈ ['{', '}', '\r'], c ∉ ['b']) ∧
    Endless compiler.options.caseInsensitiveTags ('*' :: body) ∧
    (compiler.compile "a\x7b* \x7b$x\x7d *\x7db".toList (.file [] [])).result =
      .ok ⟨[.text ['a']]⟩ := by
  intro compiler body
  have frontPlain : ∀ c ∈ ['{', '\r'], c ∉ ['a'] := by simp
  have backPlain : ∀ c ∈ ['{', '}', '\r'], c ∉ ['b'] := by simp
  have endless : Endless compiler.options.caseInsensitiveTags ('*' :: body) := by decide +kernel
  have outcome := compile_comment compiler (.file [] []) ['a'] body ['b'] rfl frontPlain backPlain
    endless
  have opens : OpensComment (normalizeLineEndings body) := by decide +kernel
  have unseen : ¬ ClosesComment (normalizeLineEndings body) := by decide +kernel
  exact ⟨rfl, frontPlain, backPlain, endless, outcome.2 opens unseen⟩

end Stencil.Program
