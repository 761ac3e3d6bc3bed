import Stencil.Proofs.QuotedStrings
import Stencil.Proofs.XmlDeclarations

/-! # Strings in candidates, read twice

The cutting into tokens ends a string at the next quote of its kind, and the scanner of
expressions only at one that no backslash escapes.  Up to a string that ends in an odd
number of backslashes the two go side by side; behind it they never meet again where
the candidate ends.

* `stringMarks` — what stands outside strings for the cutting into tokens;
* `candidate?_brace_iff` — a closing brace that stands there ends the candidate;
* `InStep` — both scanners side by side, with the backslashes in front of them;
* `Adrift` — the two of them behind such a string;
* `tokenize_candidateStrings` — when they see the same strings.
-/

namespace Stencil.Expr

open Stencil.Php (slashes slashes_append)
open Stencil.Template

variable {front rest text : List Char} {quote? : Option Char} {state : Quoting} {c quote : Char}

/-! ## The strings of a candidate -/

/-- Pairs every character with whether it stands outside the strings of the cutting into
    tokens, of which `quote?` is open.  The quotes count as part of their string. -/
def stringMarksFrom (quote? : Option Char) : List Char → List (Char × Bool)
  | [] => []
  | c :: rest => (c, quote?.isNone && !isQuote c) :: stringMarksFrom (nextQuote quote? c) rest

/-- The marking of a text that begins outside every string. -/
def stringMarks (text : List Char) : List (Char × Bool) := stringMarksFrom none text

theorem allQuoted_left {left right : List Char} (quoted : AllQuoted quote? (left ++ right)) :
    AllQuoted quote? left :=
  fun before after split => quoted before (after ++ right) (by simp [split])

/-- In a candidate, a closing brace would be its end where no string is open. -/
theorem candidate?_brace_iff {first : Char} {inner : List Char}
    (candidate : IsCandidate text first inner) (filled : front ≠ [])
    (split : first :: inner = front ++ rest) :
    candidate? ('{' :: (front ++ '}' :: rest)) = some ('{' :: (front ++ ['}']), rest) ↔
      openQuote none front = none := by
  obtain ⟨d, front, rfl⟩ := List.exists_cons_of_ne_nil filled
  obtain ⟨rfl, rfl⟩ := List.cons.inj split
  have next : nextQuote none first = none := by simp [nextQuote, candidate.first_quote]
  rw [openQuote_cons, next]
  constructor
  · intro found
    obtain ⟨other, inner, cut⟩ := isCandidate_of_candidate? found
    have same : first :: (front ++ ['}']) = other :: (inner ++ ['}']) :=
      List.tail_eq_of_cons_eq cut.text_eq
    obtain ⟨rfl, tails⟩ := List.cons.inj same
    rw [List.append_cancel_right tails]
    exact cut.closed
  · intro outside
    have closes : closeCandidate none (front ++ '}' :: rest) = some (front ++ ['}'], rest) :=
      closeCandidate_of_allQuoted outside (allQuoted_left candidate.quoted)
    simp [candidate?, candidate.first_quote, candidate.first_brace, closes]

/-! ## Side by side -/

/-- Both scanners behind a text: they are in the same string or in none, and a quote is
    escaped behind an odd number of backslashes. -/
inductive InStep (front : List Char) : Option Char → Quoting → Prop where
  | outside : InStep front none .outside
  | inside {quote : Char} (quoted : isQuote quote = true) (even : slashes front % 2 = 0) :
      InStep front (some quote) (.inside quote)
  | escaped {quote : Char} (quoted : isQuote quote = true) (odd : slashes front % 2 = 1) :
      InStep front (some quote) (.escaped quote)

/-- Both scanners behind a string that only one of them takes to be closed. -/
inductive Adrift : Option Char → Quoting → Prop where
  | behind (quote : Char) : Adrift none (.inside quote)
  | ahead {quote : Char} (quoted : isQuote quote = true) : Adrift (some quote) .outside
  | inside {quote other : Char} (quoted : isQuote quote = true) (different : quote ≠ other) :
      Adrift (some quote) (.inside other)
  | escaped {quote other : Char} (quoted : isQuote quote = true) (different : quote ≠ other) :
      Adrift (some quote) (.escaped other)

theorem slashes_concat (front : List Char) (c : Char) :
    slashes (front ++ [c]) = if c = '\\' then slashes front + 1 else 0 := by
  rw [slashes_append]
  by_cases slash : c = '\\'
  · simp [slash]
  · simp [slash, slashes, List.rtakeWhile]

theorem ne_backslash_of_isQuote (quoted : isQuote quote = true) : quote ≠ '\\' := by
  rintro rfl
  cases quoted

/-- One character brings both scanners on, unless it is the quote that only one of them
    takes for the end of its string. -/
theorem InStep.step (inStep : InStep front quote? state) (c : Char) :
    (quote? = some c ∧ state = .escaped c ∧ slashes front % 2 = 1) ∨
      (quote? = some c → slashes front % 2 = 0) ∧
        InStep (front ++ [c]) (nextQuote quote? c) (state.next c) := by
  have parity := slashes_concat front c
  cases inStep with
  | outside =>
    refine .inr ⟨by simp, ?_⟩
    by_cases quoted : isQuote c = true
    · rw [if_neg (ne_backslash_of_isQuote quoted)] at parity
      simpa [nextQuote, Quoting.next, quoted] using InStep.inside quoted (by rw [parity])
    · simpa [nextQuote, Quoting.next, quoted] using InStep.outside
  | @inside quote quoted even =>
    refine .inr ⟨fun _ => even, ?_⟩
    by_cases slash : c = '\\'
    · have other : c ≠ quote := fun same => ne_backslash_of_isQuote quoted (same ▸ slash)
      rw [if_pos slash] at parity
      rw [nextQuote, if_neg other, Quoting.next, if_pos slash]
      exact .escaped quoted (by omega)
    · by_cases closes : c = quote
      · rw [nextQuote, if_pos closes, Quoting.next, if_neg slash, if_pos closes]
        exact .outside
      · rw [if_neg slash] at parity
        rw [nextQuote, if_neg closes, Quoting.next, if_neg slash, if_neg closes]
        exact .inside quoted (by omega)
  | @escaped quote quoted odd =>
    -- The escaped quote ends the string for the cutting into tokens only.
    by_cases closes : c = quote
    · subst closes
      exact .inl ⟨rfl, rfl, odd⟩
    · refine .inr ⟨fun same => absurd (Option.some.inj same).symm closes, ?_⟩
      rw [nextQuote, if_neg closes, Quoting.next]
      refine .inside quoted ?_
      split at parity <;> omega

/-- Where both scanners are side by side they mark a character alike. -/
theorem InStep.marks (inStep : InStep front quote? state) (c : Char) :
    (state == .outside && !isQuote c) = (quote?.isNone && !isQuote c) := by
  cases inStep <;> rfl

/-- Behind a string that they end differently the scanners stay apart as long as they
    mark alike. -/
theorem Adrift.step (adrift : Adrift quote? state)
    (same : (state == .outside && !isQuote c) = (quote?.isNone && !isQuote c)) :
    Adrift (nextQuote quote? c) (state.next c) := by
  cases adrift with
  | behind quote =>
    have quoted : isQuote c = true := by simpa using same
    have noSlash := ne_backslash_of_isQuote quoted
    rw [nextQuote, if_pos quoted, Quoting.next, if_neg noSlash]
    split
    · exact .ahead quoted
    · rename_i other
      exact .inside quoted other
  | ahead opened =>
    have quoted : isQuote c = true := by simpa using same
    rw [Quoting.next, if_pos quoted, nextQuote]
    split
    · exact .behind c
    · rename_i other
      exact .inside opened (Ne.symm other)
  | @inside quote other quoted different =>
    by_cases closes : c = quote
    · subst closes
      rw [nextQuote, if_pos rfl, Quoting.next, if_neg (ne_backslash_of_isQuote quoted),
        if_neg different]
      exact .behind other
    · rw [nextQuote, if_neg closes, Quoting.next]
      split
      · exact .escaped quoted different
      · split
        · exact .ahead quoted
        · exact .inside quoted different
  | @escaped quote other quoted different =>
    rw [nextQuote, Quoting.next]
    split
    · exact .behind other
    · exact .inside quoted different

/-! ## Whole candidates -/

/-- So the scanner of expressions cannot be outside of strings at the end. -/
theorem Adrift.after_ne (adrift : Adrift quote? state)
    (same : markFrom state rest = stringMarksFrom quote? rest)
    (closed : openQuote quote? rest = none) : state.after rest ≠ .outside := by
  induction rest generalizing quote? state with
  | nil =>
    cases adrift with
    | behind quote => simp
    | ahead | inside | escaped => cases closed
  | cons c rest ih =>
    obtain ⟨here, later⟩ := List.cons.inj same
    exact ih (adrift.step (congrArg Prod.snd here)) later closed

/-- Behind even numbers of backslashes the scanners end all strings together. -/
theorem InStep.marks_eq (inStep : InStep front quote? state)
    (even : ∀ before quote after, rest = before ++ quote :: after →
      openQuote quote? before = some quote → slashes (front ++ before) % 2 = 0) :
    markFrom state rest = stringMarksFrom quote? rest ∧
      InStep (front ++ rest) (openQuote quote? rest) (state.after rest) := by
  induction rest generalizing front quote? state with
  | nil => exact ⟨rfl, by rwa [List.append_nil]⟩
  | cons c rest ih =>
    rcases inStep.step c with ⟨opened, -, odd⟩ | ⟨-, next⟩
    · have here := even [] c rest rfl opened
      rw [List.append_nil] at here
      omega
    · obtain ⟨marks, ends⟩ := ih next fun before quote after split opened => by
        have behind := even (c :: before) quote after (by rw [split, List.cons_append]) opened
        rwa [List.append_assoc, List.singleton_append]
      refine ⟨?_, by rwa [List.append_assoc, List.singleton_append] at ends⟩
      rw [markFrom, stringMarksFrom, inStep.marks, marks]

/-- Conversely, scanners that mark alike and end outside of strings stay side by side. -/
theorem InStep.next_of_marks_eq (inStep : InStep front quote? state)
    (same : markFrom state (c :: rest) = stringMarksFrom quote? (c :: rest))
    (closed : openQuote quote? (c :: rest) = none) (ends : state.after (c :: rest) = .outside) :
    (quote? = some c → slashes front % 2 = 0) ∧
      InStep (front ++ [c]) (nextQuote quote? c) (state.next c) := by
  rcases inStep.step c with ⟨rfl, rfl, -⟩ | next
  · have adrift : Adrift (nextQuote (some c) c) ((Quoting.escaped c).next c) := by
      rw [nextQuote, if_pos rfl]
      exact .behind c
    exact absurd ends (adrift.after_ne (List.cons.inj same).2 closed)
  · exact next

theorem InStep.even_of_marks_eq (inStep : InStep front quote? state)
    (same : markFrom state rest = stringMarksFrom quote? rest)
    (closed : openQuote quote? rest = none) (ends : state.after rest = .outside)
    (before : List Char) (quote : Char) (after : List Char) (split : rest = before ++ quote :: after)
    (opened : openQuote quote? before = some quote) : slashes (front ++ before) % 2 = 0 := by
  induction before generalizing front quote? state rest with
  | nil =>
    subst split
    rw [List.append_nil]
    exact (inStep.next_of_marks_eq same closed ends).1 opened
  | cons c before ih =>
    subst split
    have next := (inStep.next_of_marks_eq same closed ends).2
    have behind := ih next (List.cons.inj same).2 closed ends rfl opened
    rwa [List.append_assoc, List.singleton_append] at behind

/-- Between its braces, a candidate has no string open at its end, and a closing brace
    would end it wherever no string is open.  The scanner of expressions ends outside of
    all strings and sees the same ones exactly when none of them ends in an odd number of
    backslashes. -/
theorem tokenize_candidateStrings (stripComments : Bool) (source : List Char) (token : Token)
    (listed : token ∈ tokenize stripComments source) (kind : token.kind = .candidate) :
    ∃ content, token.text = '{' :: (content ++ ['}']) ∧ openQuote none content = none ∧
      (∀ front rest, front ≠ [] → content = front ++ rest →
        (candidate? ('{' :: (front ++ '}' :: rest)) = some ('{' :: (front ++ ['}']), rest) ↔
          openQuote none front = none)) ∧
      ((Quoting.outside.after content = .outside ∧ mark content = stringMarks content) ↔
        ∀ front quote rest, content = front ++ quote :: rest →
          openQuote none front = some quote → slashes front % 2 = 0) := by
  obtain ⟨first, inner, candidate⟩ := isCandidate_of_mem_tokenize listed kind
  have closed : openQuote none (first :: inner) = none := by
    rw [openQuote_cons, nextQuote, if_neg (by simp [candidate.first_quote])]
    exact candidate.closed
  refine ⟨first :: inner, candidate.text_eq, closed,
    fun front rest filled split => candidate?_brace_iff candidate filled split, ?_⟩
  have start : InStep [] none .outside := .outside
  constructor
  · rintro ⟨ends, same⟩ front quote rest split opened
    exact start.even_of_marks_eq same closed ends front quote rest split opened
  · intro even
    obtain ⟨same, ends⟩ := start.marks_eq even
    rw [closed] at ends
    generalize Quoting.outside.after (first :: inner) = state at ends
    cases ends
    exact ⟨rfl, same⟩

/-- A backslash at the end of an argument: the candidate goes on behind the string, but
    for the scanner of expressions the string does not end, and `g` is no modifier. -/
theorem tokenize_candidateStrings_backslash :
    let source := "\x7b$x|f:\"a\\\"|g\x7d".toList
    let token : Token := ⟨.candidate, source, ⟨0, 13⟩⟩
    let argument := "\"a\\\"|g".toList
    token ∈ tokenize true source ∧ token.kind = .candidate ∧
    Quoting.outside.after ("$x|f:".toList ++ argument) = .inside '"' ∧
    composeModifiers ("$x|f:".toList ++ argument) =
      .modifier "f".toList (.code "$x".toList) (some argument) ∧
    ∃ content, token.text = '{' :: (content ++ ['}']) ∧ openQuote none content = none ∧
      (∀ front rest, front ≠ [] → content = front ++ rest →
        (candidate? ('{' :: (front ++ '}' :: rest)) = some ('{' :: (front ++ ['}']), rest) ↔
          openQuote none front = none)) ∧
      ((Quoting.outside.after content = .outside ∧ mark content = stringMarks content) ↔
        ∀ front quote rest, content = front ++ quote :: rest →
          openQuote none front = some quote → slashes front % 2 = 0) := by
  intro source token argument
  have listed : token ∈ tokenize true source := by decide +kernel
  have ends : Quoting.outside.after ("$x|f:".toList ++ argument) = .inside '"' := by decide
  have modifiers : composeModifiers ("$x|f:".toList ++ argument) =
      .modifier "f".toList (.code "$x".toList) (some argument) := by
    decide +kernel
  exact ⟨listed, rfl, ends, modifiers, tokenize_candidateStrings true source token listed rfl⟩

end Stencil.Expr
