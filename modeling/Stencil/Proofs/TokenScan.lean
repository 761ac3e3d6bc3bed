import Stencil.Proofs.Occurrences
import Stencil.Proofs.Octets
import Stencil.Proofs.PlainText

/-! # Tokens found by their bytes

The lexer goes through the bytes of a template.  It stands within characters
most of the time, but cuts only where a delimiter stands, and no byte of a longer
character is one.

* `scanClose` / `scanCandidate` / `scanComment` — where a token ends;
* `scanTokens` — the tokens between two offsets;
* `scanTokens_eq` — no cut is a trap, and the tokens are those of the template.
-/

namespace Stencil.Template

open Stencil.Source (Span)
open Stencil.Text

/-! ## Scanning -/

/-- Where the candidate ends that is open at an offset.  A string is passed at
    once. -/
def scanClose (source : List Char) (place : Nat) : Except Trap (Option Nat) :=
  match _seen : octet? source place with
  | none => .ok none
  | some byte =>
    if byte = '}' then .ok (some (place + 1))
    else if isQuote byte then do
      let inside ← sliceFrom source (place + 1)
      match find? [byte] inside with
      | none => return none
      | some close => scanClose source (place + (close + 2))
    else scanClose source (place + 1)
termination_by byteLength source - place
decreasing_by
  all_goals
    have := lt_of_octet? _seen
    omega

/-- Where the candidate ends that begins at an offset, if one does. -/
def scanCandidate (source : List Char) (current : Nat) : Except Trap (Option Nat) :=
  if octet? source current = some '{' then
    match octet? source (current + 1) with
    | none => .ok none
    | some byte =>
      if isQuote byte || byte == '}' then .ok none else scanClose source (current + 2)
  else .ok none

/-- Where the comment ends that begins at an offset, if one does and comments are
    stripped. -/
def scanComment (stripComments : Bool) (source : List Char) (current : Nat) :
    Except Trap (Option Nat) :=
  if stripComments then do
    let rest ← octetsFrom source current
    if "<!--".toList.isPrefixOf rest then do
      let inside ← sliceFrom source (current + 4)
      return (find? "-->".toList inside).map fun close => current + 4 + close + 3
    else return none
  else return none

/-- The comment or candidate that begins at an offset, and where it ends. -/
def scanCut (stripComments : Bool) (source : List Char) (current : Nat) :
    Except Trap (Option (TokenKind × Nat)) := do
  match ← scanComment stripComments source current with
  | some stop => return some (.comment, stop)
  | none => return (← scanCandidate source current).map fun stop => (.candidate, stop)

/-- The literal text between two offsets, if there is any. -/
def flush (source : List Char) (start current : Nat) : Except Trap (List Token) :=
  if start < current then do
    let text ← slice source start current
    return [⟨.literal, text, .ofBounds start current⟩]
  else return []

/-! ## Where tokens end -/

section Ends

variable {source rest : List Char} {place stop : Nat} {byte : Char}

theorem scanClose_none (ended : octet? source place = none) : scanClose source place = .ok none := by
  rw [scanClose]
  split
  · rfl
  · rename_i seen
    rw [ended] at seen
    cases seen

theorem scanClose_some (seen : octet? source place = some byte) :
    scanClose source place =
      if byte = '}' then .ok (some (place + 1))
      else if isQuote byte then do
        let inside ← sliceFrom source (place + 1)
        match find? [byte] inside with
        | none => return none
        | some close => scanClose source (place + (close + 2))
      else scanClose source (place + 1) := by
  rw [scanClose]
  split
  · rename_i ended
    rw [seen] at ended
    cases ended
  · rename_i other
    rw [seen] at other
    cases other
    rfl

theorem lt_of_scanClose (closed : scanClose source place = .ok (some stop)) : place < stop := by
  fun_induction scanClose source place with
  | case1 => cases closed
  | case2 place =>
    cases closed
    omega
  | case3 place byte seen brace quote ih =>
    obtain ⟨inside, -, closed⟩ := exists_of_bind_eq_ok closed
    split at closed
    · cases closed
    · have := ih _ closed
      omega
  | case4 place byte seen brace quote ih =>
    have := ih closed
    omega

/-- What is cut off is not empty. -/
theorem lt_of_scanCut {stripComments : Bool} {kind : TokenKind}
    (found : scanCut stripComments source place = .ok (some (kind, stop))) : place < stop := by
  obtain ⟨comment, ends, found⟩ := exists_of_bind_eq_ok found
  cases comment with
  | some close =>
    cases found
    unfold scanComment at ends
    split at ends
    · obtain ⟨rest, -, ends⟩ := exists_of_bind_eq_ok ends
      split at ends
      · obtain ⟨inside, -, same⟩ := exists_of_bind_eq_ok ends
        obtain ⟨more, -, rfl⟩ := Option.map_eq_some_iff.1 (Except.ok.inj same)
        omega
      · cases ends
    · cases ends
  | none =>
    obtain ⟨candidate, ends, same⟩ := exists_of_bind_eq_ok found
    obtain ⟨close, rfl, same⟩ := Option.map_eq_some_iff.1 (Except.ok.inj same)
    cases same
    unfold scanCandidate at ends
    split at ends
    · split at ends
      · cases ends
      · split at ends
        · cases ends
        · have := lt_of_scanClose ends
          omega
    · cases ends

/-- An open string is passed up to its quote. -/
theorem closeCandidate_string (quote : Char) (text : List Char) :
    closeCandidate (some quote) text =
      (splitFirst? [quote] text).bind fun (inside, after) =>
        (closeCandidate none after).map fun (body, rest) => (inside ++ quote :: body, rest) := by
  induction text with
  | nil => rfl
  | cons c text ih =>
    by_cases same : c = quote
    · subst same
      have here : splitFirst? [c] (c :: text) = some ([], text) := splitFirst?_mark (by simp) text
      rw [closeCandidate, if_pos rfl, here]
      rfl
    · have other : ¬ [quote] <+: c :: text := by
        simpa [List.cons_prefix_cons] using Ne.symm same
      rw [closeCandidate, if_neg same, splitFirst?_cons other, ih]
      cases splitFirst? [quote] text with
      | none => rfl
      | some parts => simp [Function.comp_def]

theorem scanClose_plain (seen : octet? source place = some byte)
    (plain : byte ≠ '}' ∧ isQuote byte = false) :
    scanClose source place = scanClose source (place + 1) := by
  rw [scanClose_some seen, if_neg plain.1, if_neg (by simp [plain.2])]

theorem plain_of_isWide (wide : IsWide byte) : byte ≠ '}' ∧ isQuote byte = false :=
  ⟨ne_of_isWide wide (by decide), isQuote_of_isWide wide⟩

/-- A string is cut off at once, and the candidate goes on behind it. -/
theorem scanClose_string {quote : Char} (quoted : isQuote quote = true)
    (stands : StandsAt source place (quote :: rest)) :
    match splitFirst? [quote] rest with
    | none => scanClose source place = .ok none
    | some (string, after) =>
      let behind := place + byteLength (quote :: (string ++ [quote]))
      StandsAt source behind after ∧ scanClose source place = scanClose source behind := by
  have narrow : ¬ IsWide quote := fun wide => by simp [isQuote_of_isWide wide] at quoted
  have brace : quote ≠ '}' := by
    rintro rfl
    cases quoted
  have inside := (stands.tail_narrow narrow).sliceFrom
  rw [scanClose_some (stands.octet?_narrow narrow), if_neg brace, if_pos quoted, inside, ok_bind,
    find?]
  cases found : splitFirst? [quote] rest with
  | none => rfl
  | some parts =>
    obtain ⟨string, after⟩ := parts
    have size : place + byteLength (quote :: (string ++ [quote])) =
        place + (byteLength string + 2) := by
      simp [utf8Size_narrow narrow]
      omega
    have whole : (quote :: (string ++ [quote])) ++ after = quote :: rest := by
      rw [List.cons_append, splitFirst?_append found]
    rw [← whole] at stands
    refine ⟨stands.behind, ?_⟩
    rw [size]
    rfl

theorem scanClose_eq (stands : StandsAt source place rest) :
    scanClose source place =
      .ok ((closeCandidate none rest).map fun (body, _) => place + byteLength body) := by
  -- A string is passed as a whole, so the induction is on the length.
  induction size : rest.length using Nat.strongRecOn generalizing place rest with
  | ind n ih =>
    cases rest with
    | nil => exact scanClose_none stands.octet?_end
    | cons c rest =>
      by_cases brace : c = '}'
      · subst brace
        rw [scanClose_some (stands.octet?_narrow (by decide)), if_pos rfl, closeCandidate, if_pos rfl]
        rfl
      by_cases quote : isQuote c
      · have passes := scanClose_string quote stands
        rw [closeCandidate, if_neg brace, if_pos quote, closeCandidate_string]
        cases found : splitFirst? [c] rest with
        | none =>
          rw [found] at passes
          exact passes
        | some parts =>
          obtain ⟨string, after⟩ := parts
          rw [found] at passes
          have shorter := congrArg List.length (splitFirst?_append found)
          have later := ih after.length (by simp at shorter size; omega) passes.1 rfl
          simp only [passes.2, later, Option.bind_some]
          cases closeCandidate none after <;> simp [Nat.add_assoc]
      · have passes := stands.pass (scanClose source) (fun d => d ≠ '}' ∧ isQuote d = false)
          (fun place d => scanClose_plain) ⟨brace, by simpa using quote⟩ fun d => plain_of_isWide
        have later := ih rest.length (by simp at size; omega) stands.tail rfl
        rw [passes, later, closeCandidate, if_neg brace, if_neg quote]
        cases closeCandidate none rest <;> simp [Nat.add_assoc]

/-- The end of a token that begins at an offset. -/
theorem scanCandidate_eq (stands : StandsAt source place rest) :
    scanCandidate source place =
      .ok ((candidate? rest).map fun (body, _) => place + byteLength body) := by
  by_cases brace : rest.head? = some '{'
  · obtain ⟨text, rfl⟩ := List.head?_eq_some_iff.1 brace
    have behind := stands.tail_narrow (by decide)
    rw [scanCandidate, if_pos (stands.octet?_narrow (by decide))]
    cases text with
    | nil =>
      rw [behind.octet?_end]
      rfl
    | cons first text =>
      obtain ⟨byte, seen, same⟩ := behind.first
      have stops : (isQuote byte || byte == '}') = (isQuote first || first == '}') := by
        rcases same with rfl | ⟨wideByte, wide⟩
        · rfl
        · have brace (d : Char) (wide : IsWide d) : (d == '}') = false := by
            simpa using ne_of_isWide wide (by decide)
          rw [isQuote_of_isWide wideByte, isQuote_of_isWide wide, brace _ wideByte, brace _ wide]
      have passes := behind.finish (scanClose source)
        fun place d seen wide => scanClose_plain seen (plain_of_isWide wide)
      simp only [seen, stops, candidate?]
      split
      · rfl
      · rw [show place + 2 = place + 1 + 1 from rfl, passes, scanClose_eq behind.tail]
        cases closeCandidate none text with
        | none => rfl
        | some parts =>
          have brace : '{'.utf8Size = 1 := rfl
          simp only [Option.map_some, byteLength_cons, brace]
          congr 2
          omega
  · rw [scanCandidate, if_neg (mt (stands.octet?_eq_iff (by decide)).1 brace)]
    have other : candidate? rest = none := by
      cases rest with
      | nil => rfl
      | cons c rest =>
        apply candidate?_of_ne
        rintro rfl
        exact brace rfl
    rw [other]
    rfl

theorem scanComment_eq (stripComments : Bool) (stands : StandsAt source place rest) :
    scanComment stripComments source place =
      .ok ((if stripComments then comment? rest else none).map
        fun (body, _) => place + byteLength body) := by
  cases stripComments with
  | false => rfl
  | true =>
    have narrow : ∀ d ∈ "<!--".toList, ¬ IsWide d := by simp [IsWide]
    rw [scanComment, if_pos rfl, if_pos rfl, stands.octetsFrom, ok_bind,
      isPrefixOf_octets narrow]
    by_cases begins : "<!--".toList <+: rest
    · obtain ⟨text, rfl⟩ := begins
      have comment : comment? ("<!--".toList ++ text) =
          (splitFirst? "-->".toList text).map fun (body, after) =>
            ("<!--".toList ++ body ++ "-->".toList, after) := rfl
      have behind : StandsAt source (place + 4) text := stands.behind
      have inside : sliceFrom source (place + 4) = .ok text := behind.sliceFrom
      rw [if_pos (List.isPrefixOf_iff_prefix.2 (List.prefix_append _ _)), inside, comment]
      simp only [ok_bind, find?]
      cases splitFirst? "-->".toList text with
      | none => rfl
      | some parts =>
        have opening : byteLength "<!--".toList = 4 := rfl
        have closing : byteLength "-->".toList = 3 := rfl
        simp only [Option.map_some, pure_eq_ok, byteLength_append, opening, closing,
          Nat.add_assoc]
    · have other : comment? rest = none := by
        unfold comment?
        split
        · rename_i text
          exact absurd ⟨text, rfl⟩ begins
        · rfl
      rw [if_neg (mt List.isPrefixOf_iff_prefix.1 begins), other]
      rfl

theorem scanCut_eq (stripComments : Bool) (stands : StandsAt source place rest) :
    scanCut stripComments source place =
      .ok ((cut? stripComments rest).map
        fun (piece, _) => (piece.kind, place + byteLength piece.text)) := by
  rw [scanCut, scanComment_eq stripComments stands, cut?]
  cases (if stripComments then comment? rest else none) with
  | some parts => rfl
  | none =>
    simp only [Option.map_none, ok_bind, scanCandidate_eq stands]
    cases candidate? rest <;> rfl

/-- Nothing begins within a character. -/
theorem scanCut_of_isWide (stripComments : Bool) (seen : octet? source place = some byte)
    (wide : IsWide byte) : scanCut stripComments source place = .ok none := by
  have candidate : scanCandidate source place = .ok none := by
    rw [scanCandidate, if_neg]
    rw [seen, Option.some.injEq]
    exact ne_of_isWide wide (by decide)
  have comment : scanComment stripComments source place = .ok none := by
    have bytes : (octets source).drop place = byte :: (octets source).drop (place + 1) := by
      obtain ⟨inside, rfl⟩ := List.getElem?_eq_some_iff.1 seen
      exact List.drop_eq_getElem_cons inside
    have other : "<!--".toList.isPrefixOf (byte :: (octets source).drop (place + 1)) = false := by
      rw [← Bool.not_eq_true, List.isPrefixOf_iff_prefix]
      rintro ⟨rest, begins⟩
      exact ne_of_isWide wide (by decide) (List.cons.inj begins).1.symm
    cases stripComments with
    | false => rfl
    | true =>
      rw [scanComment, if_pos rfl, octetsFrom, if_pos (Nat.le_of_lt (lt_of_octet? seen)), bytes,
        ok_bind, other]
      rfl
  rw [scanCut, comment, ok_bind, candidate]
  rfl

end Ends

/-! ## Tokens -/

/-- The tokens behind an offset, in front of which literal text has begun. -/
def scanTokens (stripComments : Bool) (source : List Char) (start current : Nat) :
    Except Trap (List Token) :=
  if current < byteLength source then
    match _found : scanCut stripComments source current with
    | .error trap => .error trap
    | .ok (some (kind, stop)) => do
      let before ← flush source start current
      let text ← slice source current stop
      let later ← scanTokens stripComments source stop stop
      return before ++ ⟨kind, text, .ofBounds current stop⟩ :: later
    | .ok none => scanTokens stripComments source start (current + 1)
  else flush source start current
termination_by byteLength source - current
decreasing_by
  · have := lt_of_scanCut _found
    omega
  · omega

section Tokens

variable {stripComments : Bool} {source literal rest : List Char} {start : Nat}

theorem scanTokens_end {current : Nat} (ended : byteLength source ≤ current) :
    scanTokens stripComments source start current = flush source start current := by
  rw [scanTokens, if_neg (Nat.not_lt.2 ended)]

theorem scanTokens_cut {current stop : Nat} {kind : TokenKind}
    (inside : current < byteLength source)
    (found : scanCut stripComments source current = .ok (some (kind, stop))) :
    scanTokens stripComments source start current = do
      let before ← flush source start current
      let text ← slice source current stop
      let later ← scanTokens stripComments source stop stop
      return before ++ ⟨kind, text, .ofBounds current stop⟩ :: later := by
  rw [scanTokens, if_pos inside]
  split
  all_goals
    rename_i other
    cases found.symm.trans other
  rfl

theorem scanTokens_step (start : Nat) {current : Nat} (inside : current < byteLength source)
    (none : scanCut stripComments source current = .ok none) :
    scanTokens stripComments source start current =
      scanTokens stripComments source start (current + 1) := by
  rw [scanTokens, if_pos inside]
  split
  all_goals
    rename_i other
    cases none.symm.trans other
  rfl

/-- The literal text in front of a token is cut off as a token of its own. -/
theorem flush_eq (started : StandsAt source start (literal ++ rest)) (others : List Piece)
    (apart : ∀ piece ∈ others.head?, piece.kind ≠ .literal) :
    ∃ before, flush source start (start + byteLength literal) = .ok before ∧
      placeFrom start (literal.foldr prependLiteral others) =
        before ++ placeFrom (start + byteLength literal) others := by
  by_cases filled : literal = []
  · subst filled
    exact ⟨[], if_neg (by simp), by simp⟩
  · have size := length_le_byteLength literal
    have := List.length_pos_iff.2 filled
    refine ⟨[⟨.literal, literal, .ofBounds start (start + byteLength literal)⟩], ?_, ?_⟩
    · rw [flush, if_pos (by omega), started.slice]
      rfl
    · rw [foldr_prependLiteral filled apart]
      rfl

/-- Behind literal text that has begun, the scanner finds the tokens of the text and
    cuts nowhere else than between characters. -/
theorem scanTokens_pieces (started : StandsAt source start (literal ++ rest)) :
    scanTokens stripComments source start (start + byteLength literal) =
      .ok (placeFrom start (literal.foldr prependLiteral (pieces stripComments rest))) := by
  have stands := started.behind
  have length := stands.length
  fun_induction pieces stripComments rest generalizing start literal with
  | case1 =>
    obtain ⟨before, flushed, placed⟩ := flush_eq started [] (by simp)
    rw [scanTokens_end (by simpa using Nat.le_of_eq length.symm), flushed, placed]
    simp [placeFrom]
  | case2 c rest piece after found ih =>
    have size := c.utf8Size_pos
    have cut := scanCut_eq stripComments stands
    rw [found, Option.map_some] at cut
    obtain ⟨before, flushed, placed⟩ := flush_eq started (piece :: pieces stripComments after)
      (by simpa using cut?_kind_ne_literal found)
    have whole := stands
    rw [← cut?_append found] at whole
    have behind : StandsAt source (start + byteLength literal + byteLength piece.text) ([] ++ after) :=
      whole.behind
    have later := ih behind behind behind.length
    rw [byteLength_nil, Nat.add_zero] at later
    rw [scanTokens_cut (by simp at length; omega) cut, flushed, whole.slice, later, placed]
    rfl
  | case3 c rest none ih =>
    have size := c.utf8Size_pos
    have cut := scanCut_eq stripComments stands
    rw [none, Option.map_none] at cut
    have first := scanTokens_step start (by simp at length; omega) cut
    have passes := stands.finish (scanTokens stripComments source start)
      fun place d seen wide => scanTokens_step start (lt_of_octet? seen) (scanCut_of_isWide _ seen wide)
    have grown : StandsAt source start ((literal ++ [c]) ++ rest) := by simpa using started
    have later := ih grown grown.behind grown.behind.length
    rw [byteLength_append, byteLength_cons, byteLength_nil, Nat.add_zero, ← Nat.add_assoc] at later
    rw [first, passes, later, List.foldr_append]
    rfl

/-- Finding the tokens of a template is free of traps. -/
theorem scanTokens_eq (stripComments : Bool) (source : List Char) :
    scanTokens stripComments source 0 0 = .ok (tokenize stripComments source) := by
  have started : StandsAt source 0 ([] ++ source) := standsAt_zero source
  exact scanTokens_pieces started

end Tokens

end Stencil.Template
