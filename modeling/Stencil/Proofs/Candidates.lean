import Stencil.Proofs.Tiling

/-! # Candidates

A candidate is text in braces that ends at its first closing brace outside
strings.  A quote that is left open takes up the rest of the source, so all
strings in a candidate are closed.

* `openQuote` — the string that a text leaves open;
* `IsCandidate` — what a candidate is, read from its text;
* `isCandidate_of_mem_tokenize` — every candidate of a template is one;
* `IsCandidate.eq_iff` — texts in braces at the beginning of a candidate.
-/

namespace Stencil.Template

/-! ## Strings in candidates -/

/-- The quote that is open behind one more character. -/
def nextQuote : Option Char → Char → Option Char
  | none, c => if isQuote c then some c else none
  | some quote, c => if c = quote then none else some quote

/-- The quote that is open behind a text. -/
def openQuote (quote : Option Char) (text : List Char) : Option Char := text.foldl nextQuote quote

@[simp] theorem openQuote_nil (quote : Option Char) : openQuote quote [] = quote := rfl

@[simp] theorem openQuote_cons (quote : Option Char) (c : Char) (text : List Char) :
    openQuote quote (c :: text) = openQuote (nextQuote quote c) text := rfl

@[simp] theorem openQuote_append (quote : Option Char) (left right : List Char) :
    openQuote quote (left ++ right) = openQuote (openQuote quote left) right :=
  List.foldl_append

theorem mem_of_openQuote {quote : Char} {text : List Char}
    (closed : openQuote (some quote) text = none) : quote ∈ text := by
  induction text with
  | nil => cases closed
  | cons c rest ih =>
    by_cases same : c = quote
    · simp [same]
    · rw [openQuote_cons, nextQuote, if_neg same] at closed
      exact .tail _ (ih closed)

theorem openQuote_of_not_mem {quote : Char} {text : List Char} (inside : quote ∉ text) :
    openQuote (some quote) text = some quote := by
  induction text with
  | nil => rfl
  | cons c rest ih =>
    obtain ⟨other, inside⟩ := not_or.1 (mt List.mem_cons.2 inside)
    rw [openQuote_cons, nextQuote, if_neg (Ne.symm other)]
    exact ih inside

/-- No closing brace of a text stands outside the strings in it, of which `quote`
    has begun before. -/
def AllQuoted (quote : Option Char) (text : List Char) : Prop :=
  ∀ front rest, text = front ++ '}' :: rest → openQuote quote front ≠ none

theorem allQuoted_cons {quote : Option Char} {c : Char} {text : List Char} :
    AllQuoted quote (c :: text) ↔
      (c = '}' → quote ≠ none) ∧ AllQuoted (nextQuote quote c) text := by
  constructor
  · intro quoted
    refine ⟨fun brace => quoted [] text (by simp [brace]), fun front rest split => ?_⟩
    exact quoted (c :: front) rest (by simp [split])
  · rintro ⟨here, later⟩ front rest split
    cases front with
    | nil =>
      obtain ⟨brace, -⟩ := List.cons.inj split
      exact here brace
    | cons d front =>
      obtain ⟨rfl, tails⟩ := List.cons.inj split
      exact later front rest tails

theorem closeCandidate_spec {quote : Option Char} {text body after : List Char}
    (closed : closeCandidate quote text = some (body, after)) :
    ∃ inner, body = inner ++ ['}'] ∧ openQuote quote inner = none ∧ AllQuoted quote inner := by
  fun_induction closeCandidate quote text generalizing body with
  | case1 => cases closed
  | case2 =>
    simp only [Option.some.injEq, Prod.mk.injEq] at closed
    exact ⟨[], closed.1.symm, rfl, by simp [AllQuoted]⟩
  | case3 c rest notBrace ih =>
    simp only [Option.map_eq_some_iff, Prod.mk.injEq] at closed
    obtain ⟨⟨inner, tail⟩, found, rfl, rfl⟩ := closed
    obtain ⟨inner, rfl, ends, quoted⟩ := ih found
    exact ⟨c :: inner, rfl, ends, allQuoted_cons.2 ⟨fun brace => absurd brace notBrace, quoted⟩⟩
  | case4 quote c rest ih =>
    simp only [Option.map_eq_some_iff, Prod.mk.injEq] at closed
    obtain ⟨⟨inner, tail⟩, found, rfl, rfl⟩ := closed
    obtain ⟨inner, rfl, ends, quoted⟩ := ih found
    exact ⟨c :: inner, rfl, ends, allQuoted_cons.2 ⟨by simp, quoted⟩⟩

/-- A text in braces, of which the last is its first closing brace outside
    strings. -/
structure IsCandidate (text : List Char) (first : Char) (inner : List Char) : Prop where
  text_eq : text = '{' :: first :: (inner ++ ['}'])
  first_quote : isQuote first = false
  first_brace : first ≠ '}'
  closed : openQuote none inner = none
  quoted : AllQuoted none inner

theorem isCandidate_of_candidate? {text body after : List Char}
    (found : candidate? text = some (body, after)) : ∃ first inner, IsCandidate body first inner := by
  obtain ⟨first, rest, inner, -, rfl, noQuote, noBrace, closed⟩ := exists_of_candidate? found
  obtain ⟨inner, rfl, ends, quoted⟩ := closeCandidate_spec closed
  exact ⟨first, inner, rfl, noQuote, noBrace, ends, quoted⟩

theorem isCandidate_of_mem_pieces {stripComments : Bool} {source : List Char} {piece : Piece}
    (listed : piece ∈ pieces stripComments source) (kind : piece.kind = .candidate) :
    ∃ first inner, IsCandidate piece.text first inner := by
  fun_induction pieces stripComments source with
  | case1 => cases listed
  | case2 c rest cut after found ih =>
    rcases List.mem_cons.1 listed with rfl | later
    · rcases cut?_cases found with ⟨body, rfl, comment⟩ | ⟨body, rfl, candidate⟩
      · cases kind
      · exact isCandidate_of_candidate? candidate
    · exact ih later
  | case3 c rest _ ih =>
    unfold prependLiteral at listed
    split at listed
    · rename_i same
      rcases List.mem_cons.1 listed with rfl | later
      · cases kind
      · exact ih (same ▸ .tail _ later)
    · rcases List.mem_cons.1 listed with rfl | later
      · cases kind
      · exact ih later

theorem isCandidate_of_mem_tokenize {stripComments : Bool} {source : List Char} {token : Token}
    (listed : token ∈ tokenize stripComments source) (kind : token.kind = .candidate) :
    ∃ first inner, IsCandidate token.text first inner := by
  have piece : token.piece ∈ pieces stripComments source := by
    rw [← map_piece_placeFrom 0 (pieces stripComments source)]
    exact List.mem_map_of_mem listed
  exact isCandidate_of_mem_pieces piece kind

/-- A text in braces with which a candidate begins is all of it exactly when its
    last brace stands in no string. -/
theorem IsCandidate.eq_iff {text after inner body : List Char} {first : Char}
    (candidate : IsCandidate text first body) (split : '{' :: (inner ++ '}' :: after) = text) :
    after = [] ↔ openQuote none ('{' :: inner) = none := by
  have first_next : nextQuote none first = none := by simp [nextQuote, candidate.first_quote]
  rw [candidate.text_eq] at split
  obtain ⟨-, split⟩ := List.cons.inj split
  cases inner with
  | nil => exact absurd (List.cons.inj split).1.symm candidate.first_brace
  | cons c inner =>
    obtain ⟨rfl, rest⟩ := List.cons.inj split
    have tails : inner ++ '}' :: after = body ++ ['}'] := rest
    show after = [] ↔ openQuote (nextQuote none c) inner = none
    rw [first_next]
    constructor
    · rintro rfl
      rw [List.append_cancel_right tails]
      exact candidate.closed
    · intro outside
      rcases List.eq_nil_or_concat after with rfl | ⟨front, last, rfl⟩
      · rfl
      · -- With more text behind it the brace would stand inside the candidate.
        have inside : inner ++ '}' :: front = body := by
          have parts : (inner ++ '}' :: front) ++ [last] = body ++ ['}'] := by
            rw [← tails, List.concat_eq_append, List.append_assoc, List.cons_append]
          exact (List.append_inj' parts rfl).1
        exact absurd outside (candidate.quoted inner front inside.symm)

end Stencil.Template
