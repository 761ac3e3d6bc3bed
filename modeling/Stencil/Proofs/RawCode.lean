import Stencil.Proofs.Candidates
import Stencil.Proofs.EndTags
import Stencil.Proofs.Frames
import Stencil.Proofs.HostReading
import Stencil.Proofs.InertText
import Stencil.Proofs.PlainText

/-! # Raw code

Where raw code is allowed it is copied to the artifact.  It is cut into pieces
like any other text first, though: the tag behind it may be taken for the end of
a longer candidate, candidates that would end another region are dropped, and
each piece is made inert.

* `rawCode` — a template that is raw code only;
* `pieces_rawCode` — where the tag behind raw code comes to stand;
* `runOver_rawCode` — the program of raw code;
* `compile_rawCode` — which raw code is copied as it stands.
-/

namespace Stencil.Program

open Stencil.Source (LineIndex)
open Stencil.Tag
open Stencil.Template

/-- The tag in front of raw code. -/
def rawCodeOpening : List Char := "\x7bphp\x7d".toList

/-- The tag behind raw code. -/
def rawCodeEnding : List Char := "\x7b/php\x7d".toList

/-- A template that is raw code from end to end. -/
def rawCode (code : List Char) : List Char := rawCodeOpening ++ (code ++ rawCodeEnding)

/-- Whether raw code has a piece copied: candidates that would end another region
    are dropped. -/
def Copied (ignoreCase : Bool) (piece : Piece) : Prop :=
  piece.kind = .candidate →
    ∀ kind ∈ [TagKind.ignoreClose, .noParseClose], kind.occursIn ignoreCase piece.text = false

instance (ignoreCase : Bool) (piece : Piece) : Decidable (Copied ignoreCase piece) :=
  inferInstanceAs (Decidable (_ → _))

/-! ## The pieces of raw code -/

section Pieces

variable {code : List Char}

/-- A candidate in raw code lies in front of the tag behind it, or holds it. -/
theorem exists_rest {body after : List Char}
    (found : candidate? (code ++ rawCodeEnding) = some (body, after)) :
    after = [] ∧ body = code ++ rawCodeEnding ∨ ∃ rest, rest ++ rawCodeEnding = after := by
  obtain ⟨first, inner, isCandidate⟩ := isCandidate_of_candidate? found
  have split := candidate?_append found
  rcases List.append_eq_append_iff.1 split with ⟨rest, -, rfl⟩ | ⟨tag, rfl, same⟩
  · exact .inr ⟨rest, rfl⟩
  · rcases List.eq_nil_or_concat tag with rfl | ⟨start, c, rfl⟩
    · exact .inr ⟨[], same⟩
    · -- Of the tag only the last character can end a candidate.
      rw [List.concat_eq_append] at same isCandidate ⊢
      have ends := congrArg List.getLast? isCandidate.text_eq
      obtain rfl : c = '}' := by simpa [List.getLast?_cons] using ends
      rcases List.eq_nil_or_concat after with rfl | ⟨later, d, rfl⟩
      · exact .inl ⟨rfl, by rw [same, List.append_nil]⟩
      · have inside : '}' ∈ rawCodeEnding.dropLast := by
          rw [same, List.concat_eq_append, ← List.append_assoc, List.dropLast_concat]
          simp
        exact absurd inside (by decide)

/-- The tag behind raw code ends the last piece, which may hold code as well. -/
theorem pieces_rawCode (code : List Char) :
    ∃ front swallowed, pieces false (code ++ rawCodeEnding) =
      front ++ [⟨.candidate, swallowed ++ rawCodeEnding⟩] := by
  generalize whole : code ++ rawCodeEnding = text
  -- The tag is reached with one code after the other in front of it.
  induction text using piecewise generalizing code with
  | nil =>
    have filled : rawCodeEnding ≠ [] := by decide
    exact absurd (List.append_eq_nil_iff.1 whole).2 filled
  | literal c text none ih =>
    cases code with
    | nil =>
      -- The tag alone is a candidate.
      rw [← whole] at none
      exact absurd none (by decide)
    | cons d rest =>
      obtain ⟨rfl, later⟩ := List.cons.inj whole
      obtain ⟨front, swallowed, parts⟩ := ih rest later
      rw [pieces_of_literal none, parts]
      cases front with
      | nil => exact ⟨[⟨.literal, [d]⟩], swallowed, rfl⟩
      | cons piece front =>
        obtain ⟨kind, text⟩ := piece
        cases kind with
        | literal => exact ⟨⟨.literal, d :: text⟩ :: front, swallowed, rfl⟩
        | candidate | comment => exact ⟨⟨.literal, [d]⟩ :: ⟨_, text⟩ :: front, swallowed, rfl⟩
  | candidate text body after found ih =>
    subst whole
    rw [pieces_of_candidate found]
    rcases exists_rest found with ⟨rfl, rfl⟩ | ⟨rest, rfl⟩
    · exact ⟨[], code, by rw [pieces]; rfl⟩
    · obtain ⟨front, swallowed, parts⟩ := ih rest rfl
      exact ⟨⟨.candidate, body⟩ :: front, swallowed, by rw [parts, List.cons_append]⟩

/-- The code in front of the tag is the text of the pieces but for what the last
    one swallows. -/
theorem flatMap_text_rawCode {front : List Piece} {swallowed : List Char}
    (parts : pieces false (code ++ rawCodeEnding) =
      front ++ [⟨.candidate, swallowed ++ rawCodeEnding⟩]) :
    front.flatMap Piece.text ++ swallowed = code := by
  have whole := flatMap_text_pieces false (code ++ rawCodeEnding)
  rw [parts, List.flatMap_append, List.flatMap_singleton, ← List.append_assoc] at whole
  exact List.append_cancel_right whole

/-- In front of the last piece there is code only, without comments and without the end
    of raw code. -/
theorem noEnd_of_pieces_rawCode {ignoreCase : Bool} {front : List Piece} {swallowed : List Char}
    (parts : pieces false (code ++ rawCodeEnding) =
      front ++ [⟨.candidate, swallowed ++ rawCodeEnding⟩])
    (goesOn : TagKind.rawCodeClose.occursIn ignoreCase code = false) :
    ∀ piece ∈ front,
      piece.kind ≠ .comment ∧ TagKind.rawCodeClose.occursIn ignoreCase piece.text = false := by
  intro piece listed
  constructor
  · intro comment
    rcases kind_of_mem_pieces (parts ▸ List.mem_append_left _ listed) with kind | kind
    · cases kind.symm.trans comment
    · cases kind.symm.trans comment
  · rw [← Bool.not_eq_true]
    intro occurs
    have inCode : piece.text <:+: code := by
      rw [← flatMap_text_rawCode parts]
      exact text_infix_of_mem listed swallowed
    have inside := occursIn_of_infix (by decide) inCode occurs
    cases goesOn.symm.trans inside

/-- What the last piece swallows begins with a brace. -/
theorem head?_swallowed {front : List Piece} {swallowed : List Char}
    (parts : pieces false (code ++ rawCodeEnding) =
      front ++ [⟨.candidate, swallowed ++ rawCodeEnding⟩]) :
    swallowed = [] ∨ swallowed.head? = some '{' := by
  obtain ⟨first, inner, isCandidate⟩ :=
    isCandidate_of_mem_pieces (parts ▸ List.mem_append_right front (.head _)) rfl
  have text := isCandidate.text_eq
  cases swallowed with
  | nil => exact .inl rfl
  | cons c swallowed => exact .inr (by rw [(List.cons.inj text).1]; rfl)

end Pieces

/-! ## Running over raw code -/

section Runs

variable {compiler : Compiler} {origin : Origin} {lines : LineIndex} {state : State}
  {token : Token} {tokens : List Token} {front : List Piece}

theorem occursIn_rawCodeEnding {ignoreCase : Bool} {text : List Char}
    (inside : rawCodeEnding <:+: text) : TagKind.rawCodeClose.occursIn ignoreCase text = true := by
  have listed : rawCodeEnding ∈ endMarks .rawCodeClose := .head _
  refine (occursIn_iff (by decide)).2 ⟨rawCodeEnding, listed, ?_⟩
  rw [← map_letterOf_mark listed]
  exact inside.map _

theorem step_rawCodeOpening (allowed : compiler.options.allowRawCode = true)
    (markup : state.region = .markup) (piece : token.piece = ⟨.candidate, rawCodeOpening⟩) :
    compiler.step origin lines state token =
      .ok { state := { state with region := .rawCode }, instructions := [.rawCodeOpen] } := by
  have kind : token.kind = .candidate := congrArg Piece.kind piece
  have text : token.text = rawCodeOpening := congrArg Piece.text piece
  have ordinary (ignoreCase : Bool) : Endless ignoreCase rawCodeOpening ∧
      ∃ found, classify? ignoreCase rawCodeOpening = some found ∧ found.kind = .rawCodeOpen := by
    cases ignoreCase with
    | false => exact ⟨by decide +kernel, ⟨.rawCodeOpen, [], [.fixed rawCodeOpening]⟩, by decide +kernel, rfl⟩
    | true => exact ⟨by decide +kernel, ⟨.rawCodeOpen, [], [.fixed rawCodeOpening]⟩, by decide +kernel, rfl⟩
  obtain ⟨endless, found, classified, isOpening⟩ := ordinary compiler.options.caseInsensitiveTags
  rw [← text] at endless classified
  have stays := not_closesRegion_of_endless endless
  rw [step_of_active ⟨kind, markup, stays⟩ classified, Compiler.ordinaryTag]
  simp only [isOpening, allowed, if_true]

theorem step_rawCode (allowed : compiler.options.allowRawCode = true)
    (inside : state.region = .rawCode) (noComment : token.kind ≠ .comment)
    (goesOn : token.kind = .candidate →
      TagKind.rawCodeClose.occursIn compiler.options.caseInsensitiveTags token.text = false) :
    compiler.step origin lines state token =
      .ok { state, instructions :=
        if Copied compiler.options.caseInsensitiveTags token.piece then [.text token.text]
        else [] } := by
  unfold Compiler.step Copied
  cases kind : token.kind with
  | comment => exact absurd kind noComment
  | literal => simp [inside, kind, Token.piece]
  | candidate =>
    have settled : settleRegion? compiler.options .rawCode token.text =
        some (.rawCode, if Copied compiler.options.caseInsensitiveTags token.piece then
          [.text token.text] else []) := by
      have copied : Copied compiler.options.caseInsensitiveTags token.piece ↔
          TagKind.ignoreClose.occursIn compiler.options.caseInsensitiveTags token.text = false ∧
          TagKind.noParseClose.occursIn compiler.options.caseInsensitiveTags token.text = false := by
        simp [Copied, Token.piece, kind]
      simp only [copied]
      cases ignoreEnds :
          TagKind.ignoreClose.occursIn compiler.options.caseInsensitiveTags token.text <;>
        cases noParseEnds :
          TagKind.noParseClose.occursIn compiler.options.caseInsensitiveTags token.text <;>
        simp [settleRegion?, goesOn kind, allowed, Region.leave, ignoreEnds, noParseEnds]
    simp only [Compiler.candidate, inside, settled]
    simp [← inside, Copied, Token.piece, kind]

theorem step_rawCodeEnding {swallowed : List Char}
    (allowed : compiler.options.allowRawCode = true) (inside : state.region = .rawCode)
    (piece : token.piece = ⟨.candidate, swallowed ++ rawCodeEnding⟩) :
    compiler.step origin lines state token =
      .ok { state := { state with region := .markup }, instructions := [.rawCodeClose] } := by
  have kind : token.kind = .candidate := congrArg Piece.kind piece
  have text : token.text = swallowed ++ rawCodeEnding := congrArg Piece.text piece
  have ends : TagKind.rawCodeClose.occursIn compiler.options.caseInsensitiveTags token.text = true :=
    occursIn_rawCodeEnding (text ▸ (List.suffix_append _ _).isInfix)
  have settled : settleRegion? compiler.options .rawCode token.text =
      some (.markup, [.rawCodeClose]) := by
    simp [settleRegion?, ends, allowed]
  simp only [Compiler.step, kind, Compiler.candidate, inside, settled]

/-- Up to the tag behind it raw code is copied piece by piece. -/
theorem run_rawCode (allowed : compiler.options.allowRawCode = true)
    (inside : state.region = .rawCode)
    (goesOn : ∀ piece ∈ front, piece.kind ≠ .comment ∧
      TagKind.rawCodeClose.occursIn compiler.options.caseInsensitiveTags piece.text = false)
    (placed : tokens.map Token.piece = front) :
    (compiler.run origin lines state tokens).result =
      .ok (state, ((front.filter (Copied compiler.options.caseInsensitiveTags ·)).map
        Piece.text).map .text) := by
  subst placed
  induction tokens with
  | nil => rfl
  | cons token tokens ih =>
    obtain ⟨⟨noComment, noEnd⟩, goesOn⟩ := List.forall_mem_cons.1 goesOn
    have stepped := @step_rawCode compiler origin lines state token allowed inside noComment
      fun _ => noEnd
    refine run_cons_ok_iff.2 ⟨_, _, stepped, ih goesOn, ?_⟩
    rw [List.map_cons]
    by_cases copied : Copied compiler.options.caseInsensitiveTags token.piece
    · rw [List.filter_cons_of_pos (by simpa using copied), if_pos copied]
      rfl
    · rw [List.filter_cons_of_neg (by simpa using copied), if_neg copied]
      rfl

end Runs

/-- The texts that raw code is compiled to. -/
def rawCodeTexts (ignoreCase : Bool) (code : List Char) : List (List Char) :=
  ((pieces false (code ++ rawCodeEnding)).dropLast.filter (Copied ignoreCase ·)).map Piece.text

theorem map_piece_tokens_rawCode {compiler : Compiler} {code : List Char}
    (kept : compiler.options.stripComments = false) (plain : '\r' ∉ code) :
    (compiler.tokens (rawCode code)).map Token.piece =
      ⟨.candidate, rawCodeOpening⟩ :: pieces false (code ++ rawCodeEnding) := by
  have noReturn : '\r' ∉ rawCode code := by
    have tags : '\r' ∉ rawCodeOpening ∧ '\r' ∉ rawCodeEnding := by decide
    simp [rawCode, tags, plain]
  have opening : candidate? (rawCode code) = some (rawCodeOpening, code ++ rawCodeEnding) := rfl
  rw [Compiler.tokens, normalizeLineEndings_eq noReturn, kept, tokenize, map_piece_placeFrom,
    pieces_of_candidate opening]

/-- Raw code is compiled to the texts of its pieces, between the tags. -/
theorem runOver_rawCode {compiler : Compiler} {origin : Origin} {code : List Char}
    (kept : compiler.options.stripComments = false)
    (allowed : compiler.options.allowRawCode = true)
    (goesOn : TagKind.rawCodeClose.occursIn compiler.options.caseInsensitiveTags code = false)
    (plain : '\r' ∉ code) :
    compiler.runOver (rawCode code) origin =
      .ok ({}, .rawCodeOpen :: ((rawCodeTexts compiler.options.caseInsensitiveTags code).map .text ++
        [.rawCodeClose])) := by
  have tokens := map_piece_tokens_rawCode kept plain
  obtain ⟨front, swallowed, parts⟩ := pieces_rawCode code
  rw [parts] at tokens
  obtain ⟨first, later, same, firstPiece, laterPieces⟩ := List.map_eq_cons_iff.1 tokens
  obtain ⟨middle, ending, rfl, middlePieces, endingPiece⟩ := List.map_eq_append_iff.1 laterPieces
  obtain ⟨last, rfl, lastPiece⟩ := List.map_eq_singleton_iff.1 endingPiece
  have noEnd := noEnd_of_pieces_rawCode parts goesOn
  have texts : rawCodeTexts compiler.options.caseInsensitiveTags code =
      (front.filter (Copied compiler.options.caseInsensitiveTags ·)).map Piece.text := by
    rw [rawCodeTexts, parts, List.dropLast_concat]
  rw [Compiler.runOver, same, texts]
  refine run_cons_ok_iff.2 ⟨_, _, step_rawCodeOpening allowed rfl firstPiece, ?_, rfl⟩
  refine run_append_ok_iff.2 ⟨_, _, _, run_rawCode allowed rfl noEnd middlePieces, ?_, rfl⟩
  exact run_cons_ok_iff.2
    ⟨_, [], step_rawCodeEnding allowed rfl lastPiece, run_nil_ok_iff.2 ⟨rfl, rfl⟩, rfl⟩

end Stencil.Program

namespace Stencil.Php

open Stencil.Program
open Stencil.Tag (TagKind)
open Stencil.Template
open Stencil.Text

/-! ## Counting characters

What is dropped from raw code has a brace, what is made inert gets an ampersand,
and what is printed for an XML declaration has quotes.  So the artifact shows in
the number of these characters whether the code was copied. -/

section Counting

variable {text : List Char} {texts : List (List Char)} {c : Char}

/-- The characters that are counted. -/
def tallied : List Char := ['{', '\'', '&']

theorem forall_tallied {holds : Char → Prop} (brace : holds '{') (quote : holds '\'')
    (ampersand : holds '&') : ∀ c ∈ tallied, holds c := by
  simp [tallied, brace, quote, ampersand]

theorem block_eq (code : List Char) : block code = "<?php ".toList ++ code ++ " ?>".toList := rfl

theorem count_block (code : List Char) (listed : c ∈ tallied) :
    (block code).count c = code.count c := by
  have opening : ∀ c ∈ tallied, "<?php ".toList.count c = 0 := forall_tallied rfl rfl rfl
  have closing : ∀ c ∈ tallied, " ?>".toList.count c = 0 := forall_tallied rfl rfl rfl
  have front := opening c listed
  have back := closing c listed
  rw [block_eq, List.count_append, List.count_append]
  omega

theorem emit_rawCode (texts : List (List Char)) :
    emit ⟨.rawCodeOpen :: (texts.map .text ++ [.rawCodeClose])⟩ =
      doubleNewlines (safetyHeader ++ joinBlocks (block (texts.flatMap sanitize))) := by
  have body : (texts.map Instruction.text).flatMap instruction = texts.flatMap sanitize := by
    rw [List.flatMap_map]
    rfl
  rw [emit, List.flatMap_cons, List.flatMap_append, body, block_eq, List.append_assoc]
  rfl

theorem count_emit (texts : List (List Char)) (listed : c ∈ tallied) :
    (emit ⟨.rawCodeOpen :: (texts.map .text ++ [.rawCodeClose])⟩).count c =
      safetyHeader.count c + (texts.flatMap sanitize).count c := by
  have joint : ∀ c ∈ tallied, " ".toList.count c = "?><?php".toList.count c :=
    forall_tallied rfl rfl rfl
  have newline : ∀ c ∈ tallied, "?>\n\n".toList.count c = "?>\n".toList.count c :=
    forall_tallied rfl rfl rfl
  have joined := (joinBlocks_replaced (block (texts.flatMap sanitize))).count_eq (c := c) <| by
    rintro mark written ⟨rfl, rfl⟩
    exact joint c listed
  have filled : "?>\n".toList ≠ [] := by decide
  have doubled := (replaceAll_replaced filled "?>\n\n".toList
      (safetyHeader ++ joinBlocks (block (texts.flatMap sanitize)))).count_eq (c := c) <| by
    rintro mark written ⟨rfl, rfl⟩
    exact newline c listed
  rw [emit_rawCode, doubleNewlines, doubled, List.count_append, joined, count_block _ listed]

/-- A declaration is printed with two quotes more. -/
theorem count_sanitize {before body after : List Char}
    (found : xmlDeclaration? text = some (before, body, after)) (listed : c = '{' ∨ c = '\'') :
    (sanitize text).count c + after.count c =
      text.count c + (sanitize after).count c + if c = '\'' then 2 else 0 := by
  have slashes : c ∉ ['\\', '0', '\x00'] := by
    rcases listed with rfl | rfl <;> decide
  have kept : c ∈ unmarked := by
    rcases listed with rfl | rfl <;> decide
  have frame : "<?php echo '<?xml ".toList.count c + " ?>'; ?>".toList.count c =
      "<?xml".toList.count c + "?>".toList.count c + if c = '\'' then 2 else 0 := by
    rcases listed with rfl | rfl <;> decide
  have whole := congrArg (List.count c) (xmlDeclaration?_append found)
  rw [sanitize_of_some found, ← whole]
  simp only [List.count_append, count_neutralize _ kept, count_stripSlashes _ slashes]
  omega

theorem count_sanitize_brace (text : List Char) : (sanitize text).count '{' = text.count '{' := by
  induction text using sanitize.induct with
  | case1 text before body after found ih =>
    have counted := count_sanitize found (.inl rfl)
    rw [if_neg (by decide)] at counted
    omega
  | case2 text none => rw [sanitize_of_none none, count_neutralize text (by decide)]

theorem count_quote_le (text : List Char) : text.count '\'' ≤ (sanitize text).count '\'' := by
  induction text using sanitize.induct with
  | case1 text before body after found ih =>
    have counted := count_sanitize found (.inr rfl)
    omega
  | case2 text none => rw [sanitize_of_none none, count_neutralize text (by decide)]

/-- A text that gets no quote more has no declaration. -/
theorem sanitize_of_count_quote (same : (sanitize text).count '\'' = text.count '\'') :
    sanitize text = neutralize text := by
  cases found : xmlDeclaration? text with
  | none => exact sanitize_of_none found
  | some parts =>
    obtain ⟨before, body, after⟩ := parts
    have counted := count_sanitize found (.inr rfl)
    have later := count_quote_le after
    rw [if_pos rfl] at counted
    omega

theorem Inert.count_ampersand {mark written : List Char} (inert : Inert mark written) :
    mark.count '&' = 0 ∧ written.count '&' = 1 := by
  have added : ∀ form ∈ inertForms, form.count '&' = 1 := by decide
  have free : ∀ marker ∈ codeMarkers, '&' ∉ marker := by decide
  refine ⟨?_, added _ inert.written_mem⟩
  rw [List.count_eq_zero]
  intro inside
  exact free _ inert.isMarker (List.mem_map.2 ⟨'&', inside, rfl⟩)

theorem count_le_of_flatMap {write : List Char → List Char}
    (more : ∀ text ∈ texts, text.count c ≤ (write text).count c) :
    texts.flatten.count c ≤ (texts.flatMap write).count c := by
  induction texts with
  | nil => exact Nat.le_refl _
  | cons first texts ih =>
    obtain ⟨here, others⟩ := List.forall_mem_cons.1 more
    have later := ih others
    rw [List.flatten_cons, List.flatMap_cons, List.count_append, List.count_append]
    omega

/-- Texts that together grow by no character do so one by one. -/
theorem count_of_flatMap {write : List Char → List Char}
    (more : ∀ text ∈ texts, text.count c ≤ (write text).count c)
    (same : (texts.flatMap write).count c = texts.flatten.count c) :
    ∀ text ∈ texts, (write text).count c = text.count c := by
  induction texts with
  | nil => simp
  | cons first texts ih =>
    obtain ⟨here, others⟩ := List.forall_mem_cons.1 more
    have later := count_le_of_flatMap others
    rw [List.flatten_cons, List.flatMap_cons, List.count_append, List.count_append] at same
    refine List.forall_mem_cons.2 ⟨?_, ih others ?_⟩
    · omega
    · omega

/-- Where no tallied character is added to texts, none of them is changed. -/
theorem neutralize_of_count
    (same : ∀ c ∈ tallied, (texts.flatMap sanitize).count c = texts.flatten.count c) :
    ∀ text ∈ texts, neutralize text = text := by
  have inert : ∀ text ∈ texts, sanitize text = neutralize text := fun text listed =>
    sanitize_of_count_quote (count_of_flatMap (fun text _ => count_quote_le text)
      (same '\'' (by decide)) text listed)
  have ampersands := same '&' (by decide)
  rw [List.flatMap_congr inert] at ampersands
  have more (text : List Char) : text.count '&' ≤ (neutralize text).count '&' :=
    (neutralize_replaced text).count_le fun mark written inert => by
      rw [inert.count_ampersand.1]
      exact Nat.zero_le _
  intro text listed
  have single := count_of_flatMap (fun text _ => more text) ampersands text listed
  refine (neutralize_replaced text).eq_of_count (fun mark written inert => ?_) single
  rw [inert.count_ampersand.1, inert.count_ampersand.2]
  exact Nat.one_pos

end Counting

/-! ## Copied code -/

section Copying

variable {ignoreCase : Bool} {code swallowed : List Char} {texts : List (List Char)}
  {front : List Piece}

/-- Texts that are left as they are hold no marker, and none is cut by their ends. -/
theorem not_hasMarker_of_neutralize (same : ∀ text ∈ texts, neutralize text = text)
    (filled : ∀ text ∈ texts, text ≠ []) (apart : texts.IsChain Template.Apart) :
    ¬ HasMarker texts.flatten := by
  rintro ⟨marker, isMarker, left, right, split⟩
  have written : texts.flatMap neutralize = left ++ (marker ++ right) := by
    rw [← List.append_assoc, split, List.flatMap_congr same, List.flatMap_id']
  obtain ⟨before, stretch, after, cut, -, isCut, -⟩ :=
    exists_cut_of_marker (texts_replaced texts) isMarker written
  have chain := texts_isChain filled apart
  rw [cut] at chain
  exact not_isCut_of_isChain chain isCut

theorem count_copied_le (ignoreCase : Bool) (front : List Piece) :
    ((front.filter (Copied ignoreCase ·)).flatMap Piece.text).count '{' ≤
      (front.flatMap Piece.text).count '{' :=
  ((List.filter_sublist.map Piece.text).flatten).count_le '{'

/-- Pieces that are not copied take braces with them. -/
theorem copied_of_count (dropped : ∀ piece ∈ front, ¬ Copied ignoreCase piece → '{' ∈ piece.text)
    (same : (front.flatMap Piece.text).count '{' ≤
      ((front.filter (Copied ignoreCase ·)).flatMap Piece.text).count '{') :
    ∀ piece ∈ front, Copied ignoreCase piece := by
  induction front with
  | nil => simp
  | cons piece front ih =>
    obtain ⟨first, others⟩ := List.forall_mem_cons.1 dropped
    have fewer := count_copied_le ignoreCase front
    rw [List.flatMap_cons, List.count_append] at same
    by_cases copied : Copied ignoreCase piece
    · rw [List.filter_cons_of_pos (by simpa using copied), List.flatMap_cons,
        List.count_append] at same
      exact List.forall_mem_cons.2 ⟨copied, ih others (by omega)⟩
    · rw [List.filter_cons_of_neg (by simpa using copied)] at same
      have brace := List.count_pos_iff.2 (first copied)
      omega

theorem sanitize_of_not_hasMarker {text : List Char} (plain : ¬ HasMarker text) :
    sanitize text = text := by
  have noDeclaration : ∀ body, ¬ "<?xml".toList ++ (body ++ "?>".toList) <:+: text := by
    intro body declared
    refine plain ⟨"?>".toList, by decide, List.IsInfix.trans ?_ declared⟩
    exact ((List.suffix_append _ _).trans (List.suffix_append _ _)).isInfix
  rw [sanitize_of_noDeclaration noDeclaration]
  apply (neutralize_replaced text).eq_of_absent
  intro mark written inert inside
  exact plain ⟨mark, inert.isMarker, inside⟩

/-- Raw code as a block of the artifact. -/
def codeBlock (code : List Char) : Block := ⟨' ' :: (code ++ [' ']), []⟩

theorem written_codeBlock (code : List Char) : written [codeBlock code] = block code := by
  simp [codeBlock, written, block_eq]

/-- Code without markers is written as it stands. -/
theorem emit_of_not_hasMarker (plain : ¬ HasMarker code) :
    doubleNewlines (safetyHeader ++ joinBlocks (block code)) = safetyHeader ++ block code := by
  have nothing : ¬ "?>".toList <:+: ([] : List Char) := by decide
  have free : ¬ "?>".toList <:+: (codeBlock code).code :=
    not_infix_joint nothing (not_infix_joint (not_hasMarker plain).1 nothing)
  have isPlain : (codeBlock code).Plain := by
    refine ⟨free, nothing, ?_⟩
    show ¬ "<?php".toList <:+: ([] : List Char)
    decide
  have joined : joinBlocks (block code) = block code := by
    rw [← written_codeBlock]
    exact joinBlocks_written (List.forall_mem_singleton.2 isPlain)
  -- The header and the code are two blocks with nothing behind them.
  have both : safetyHeader ++ block code =
      written [⟨betweenMarkers safetyHeader, []⟩, codeBlock code] := by
    rw [written_cons, written_codeBlock]
    nth_rewrite 1 [safetyHeader_eq]
    simp only [List.append_assoc, List.nil_append]
  rw [joined, both]
  apply doubleNewlines_written
  · exact List.forall_mem_cons.2 ⟨not_infix_header, List.forall_mem_singleton.2 free⟩
  · simp [codeBlock]

/-- The code was copied if no tallied character is lost or added. -/
theorem copied_of_emit
    (parts : pieces false (code ++ rawCodeEnding) =
      front ++ [⟨.candidate, swallowed ++ rawCodeEnding⟩])
    (same : ∀ c ∈ tallied, ((rawCodeTexts ignoreCase code).flatMap sanitize).count c = code.count c) :
    (∀ piece ∈ front, Copied ignoreCase piece) ∧ swallowed = [] := by
  have whole := flatMap_text_rawCode parts
  have braces : ((rawCodeTexts ignoreCase code).flatMap sanitize).count '{' =
      ((front.filter (Copied ignoreCase ·)).flatMap Piece.text).count '{' := by
    rw [rawCodeTexts, parts, List.dropLast_concat]
    generalize front.filter (Copied ignoreCase ·) = copies
    induction copies with
    | nil => rfl
    | cons piece copies ih =>
      rw [List.map_cons, List.flatMap_cons, List.flatMap_cons, List.count_append,
        List.count_append, count_sanitize_brace, ih]
  have fewer := count_copied_le ignoreCase front
  have total := same '{' (by decide)
  rw [braces, ← whole, List.count_append] at total
  constructor
  · apply copied_of_count _ (by omega)
    intro piece listed dropped
    -- Only candidates are dropped, and they begin with a brace.
    have kind : piece.kind = .candidate := by
      by_contra other
      exact dropped fun candidate => absurd candidate other
    have inParts : piece ∈ pieces false (code ++ rawCodeEnding) :=
      parts ▸ List.mem_append_left _ listed
    obtain ⟨first, inner, isCandidate⟩ := isCandidate_of_mem_pieces inParts kind
    rw [isCandidate.text_eq]
    exact .head _
  · rcases head?_swallowed parts with nothing | brace
    · exact nothing
    · have listed := List.count_pos_iff.2 (List.mem_of_head? brace)
      omega

/-- Where nothing is dropped the texts are those of all pieces. -/
theorem rawCodeTexts_of_copied
    (parts : pieces false (code ++ rawCodeEnding) = front ++ [⟨.candidate, rawCodeEnding⟩])
    (copied : ∀ piece ∈ front, Copied ignoreCase piece) :
    rawCodeTexts ignoreCase code = front.map Piece.text ∧ (front.map Piece.text).flatten = code := by
  have whole := @flatMap_text_rawCode code front [] parts
  constructor
  · rw [rawCodeTexts, parts, List.dropLast_concat, List.filter_eq_self.2]
    simpa using copied
  · rw [← List.flatMap_def, ← whole, List.append_nil]

theorem isChain_rawCode
    (parts : pieces false (code ++ rawCodeEnding) = front ++ [⟨.candidate, rawCodeEnding⟩]) :
    (front.map Piece.text).IsChain Template.Apart := by
  have chain := tokenize_apart false (code ++ rawCodeEnding)
  have texts : (tokenize false (code ++ rawCodeEnding)).map Token.text =
      (pieces false (code ++ rawCodeEnding)).map Piece.text := by
    rw [← map_piece_placeFrom 0 (pieces false (code ++ rawCodeEnding)), List.map_map]
    rfl
  rw [texts, parts, List.map_append] at chain
  exact chain.left_of_append

/-- The tag behind raw code is no part of the code. -/
theorem swallowed_eq_nil
    (goesOn : TagKind.rawCodeClose.occursIn ignoreCase code = false)
    (parts : pieces false (code ++ rawCodeEnding) =
      front ++ [⟨.candidate, swallowed ++ rawCodeEnding⟩])
    (alone : ⟨.candidate, rawCodeEnding⟩ ∈ pieces false (code ++ rawCodeEnding)) :
    swallowed = [] := by
  rw [parts] at alone
  rcases List.mem_append.1 alone with inFront | isLast
  · -- In front of the last piece it would stand in the code.
    have inCode : rawCodeEnding <:+: code := by
      rw [← flatMap_text_rawCode parts]
      exact text_infix_of_mem inFront swallowed
    rw [occursIn_rawCodeEnding inCode] at goesOn
    cases goesOn
  · have same : rawCodeEnding = swallowed ++ rawCodeEnding :=
      congrArg Piece.text (List.mem_singleton.1 isLast)
    exact List.append_left_eq_self.1 same.symm

theorem copied_ending (ignoreCase : Bool) : Copied ignoreCase ⟨.candidate, rawCodeEnding⟩ := by
  cases ignoreCase with
  | false => decide +kernel
  | true => decide +kernel

end Copying

/-- Raw code that is allowed is copied as it stands exactly if no code marker stands
    in it, the tag behind it is a candidate of its own, and no candidate in it would
    end another region. -/
theorem compile_rawCode (compiler : Compiler) (origin : Origin) (code : List Char)
    (kept : compiler.options.stripComments = false)
    (allowed : compiler.options.allowRawCode = true)
    (goesOn : TagKind.rawCodeClose.occursIn compiler.options.caseInsensitiveTags code = false)
    (plain : '\r' ∉ code) :
    ∃ program, (compiler.compile (rawCode code) origin).result = .ok program ∧
      (emit program = safetyHeader ++ block code ↔
        ¬ HasMarker code ∧ ⟨.candidate, rawCodeEnding⟩ ∈ pieces false (code ++ rawCodeEnding) ∧
          ∀ piece ∈ pieces false (code ++ rawCodeEnding),
            Copied compiler.options.caseInsensitiveTags piece) := by
  obtain ⟨front, swallowed, parts⟩ := pieces_rawCode code
  refine ⟨⟨.rawCodeOpen :: ((rawCodeTexts compiler.options.caseInsensitiveTags code).map .text ++
    [.rawCodeClose])⟩, compile_ok_iff.2 ⟨_, runOver_rawCode kept allowed goesOn plain,
      State.spans_initial .markup⟩, ?_⟩
  constructor
  · intro copy
    -- Equal artifacts have as many braces, quotes and ampersands.
    have counts : ∀ c ∈ tallied,
        ((rawCodeTexts compiler.options.caseInsensitiveTags code).flatMap sanitize).count c =
          code.count c := by
      intro c listed
      have same := congrArg (List.count c) copy
      rw [count_emit _ listed, List.count_append, count_block _ listed] at same
      exact Nat.add_left_cancel same
    obtain ⟨copied, rfl⟩ := copied_of_emit parts counts
    obtain ⟨texts, flat⟩ := rawCodeTexts_of_copied parts copied
    rw [texts] at counts
    have neutral := neutralize_of_count fun c listed => (counts c listed).trans (by rw [flat])
    have filled : ∀ text ∈ front.map Piece.text, text ≠ [] := by
      intro text listed
      obtain ⟨piece, inFront, rfl⟩ := List.mem_map.1 listed
      exact pieces_ne_nil false _ piece (parts ▸ List.mem_append_left _ inFront)
    refine ⟨?_, parts ▸ List.mem_append_right _ (.head _), ?_⟩
    · rw [← flat]
      exact not_hasMarker_of_neutralize neutral filled (isChain_rawCode parts)
    · rw [parts]
      exact List.forall_mem_append.2 ⟨copied, List.forall_mem_singleton.2 (copied_ending _)⟩
  · rintro ⟨noMarker, alone, copied⟩
    obtain rfl := swallowed_eq_nil goesOn parts alone
    rw [parts] at copied
    obtain ⟨texts, flat⟩ := rawCodeTexts_of_copied parts fun piece listed =>
      copied piece (List.mem_append_left _ listed)
    have written : (front.map Piece.text).flatMap sanitize = code := by
      have unchanged : ∀ text ∈ front.map Piece.text, sanitize text = text := by
        intro text listed
        apply sanitize_of_not_hasMarker
        rintro ⟨marker, isMarker, inside⟩
        exact noMarker ⟨marker, isMarker, flat ▸ inside.trans (List.infix_of_mem_flatten listed)⟩
      rw [List.flatMap_congr unchanged, List.flatMap_id', flat]
    rw [emit_rawCode, texts, written, emit_of_not_hasMarker noMarker]

/-- Code that opens a block of its own loses the brace to the tag behind it. -/
theorem compile_rawCode_brace :
    let compiler : Compiler := ⟨{ allowRawCode := true }, .empty⟩
    let code := " if ($a) \x7b ".toList
    compiler.options.stripComments = false ∧ compiler.options.allowRawCode = true ∧
    TagKind.rawCodeClose.occursIn compiler.options.caseInsensitiveTags code = false ∧
    '\r' ∉ code ∧
    ∃ program, (compiler.compile (rawCode code) (.file [] [])).result = .ok program ∧
      emit program ≠ safetyHeader ++ block code := by
  intro compiler code
  have goesOn : TagKind.rawCodeClose.occursIn compiler.options.caseInsensitiveTags code = false := by
    decide +kernel
  have plain : '\r' ∉ code := by decide
  obtain ⟨program, compiled, copied⟩ :=
    compile_rawCode compiler (.file [] []) code rfl rfl goesOn plain
  have swallowed : (⟨.candidate, rawCodeEnding⟩ : Piece) ∉ pieces false (code ++ rawCodeEnding) := by
    decide +kernel
  exact ⟨rfl, rfl, goesOn, plain, program, compiled, fun same => swallowed (copied.1 same).2.1⟩

end Stencil.Php
