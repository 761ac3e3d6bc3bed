import Stencil.Expr.Quoting
import Stencil.Proofs.SubscriptMoves

/-! # Strings and the text around them

All scanners of expressions track strings in the same way, by the quote that is open
and whether a backslash stands in front.  The rewriter of subscripts looks ahead over
words and single characters, but never past a quote, so that what it writes around a
string does not depend on what the string holds.

* `Quoting.after` — where the scanner of strings stands behind a text;
* `Quoting.Opened` — strings are opened by quotes;
* `takeString_of_after` — the rewriter ends its strings there, too;
* `Move.outside` — between its moves it is outside of strings for the scanner;
* `Move.before_string` — a move in front of a string does not look behind its quote;
* `quoteSubscripts_apart` — a string apart from what stands around it.
-/

namespace Stencil.Expr

open Stencil.Template (isQuote)
open Stencil.Text (isNameChar)

/-- Where the scanner of strings stands behind a text. -/
def Quoting.after (state : Quoting) (text : List Char) : Quoting := text.foldl Quoting.next state

variable {inChain : Bool} {brackets : List Bool} {c quote : Char}
  {text left right rest name key behind written : List Char} {next : Reading} {state : Quoting}

/-! ## Where strings are open -/

@[simp] theorem Quoting.after_nil (state : Quoting) : state.after [] = state := rfl

@[simp] theorem Quoting.after_cons (state : Quoting) (c : Char) (rest : List Char) :
    state.after (c :: rest) = (state.next c).after rest := rfl

@[simp] theorem Quoting.after_append (state : Quoting) (left right : List Char) :
    state.after (left ++ right) = (state.after left).after right :=
  List.foldl_append

/-- A string that is open was opened by a quote. -/
def Quoting.Opened : Quoting → Prop
  | .outside => True
  | .inside quote | .escaped quote => isQuote quote = true

theorem Quoting.opened_outside : Quoting.outside.Opened := trivial

theorem Quoting.opened_next (opened : state.Opened) (c : Char) : (state.next c).Opened := by
  cases state with
  | outside =>
    rw [Quoting.next]
    split
    · rename_i quote
      exact quote
    · trivial
  | inside quote =>
    rw [Quoting.next]
    split
    · exact opened
    · split
      · trivial
      · exact opened
  | escaped quote => exact opened

theorem Quoting.opened_after (opened : state.Opened) (text : List Char) :
    (state.after text).Opened := by
  induction text generalizing state with
  | nil => exact opened
  | cons c text ih => exact ih (Quoting.opened_next opened c)

/-- Text without quotes opens no string. -/
theorem Quoting.after_of_no_quote (plain : ∀ c ∈ text, isQuote c = false) :
    Quoting.outside.after text = .outside := by
  induction text with
  | nil => rfl
  | cons c text ih =>
    have stays : Quoting.outside.next c = .outside := by simp [Quoting.next, plain c (.head _)]
    rw [Quoting.after_cons, stays]
    exact ih fun d inside => plain d (.tail _ inside)

theorem Quoting.outside_behind (plain : ∀ c ∈ left, isQuote c = false)
    (closed : Quoting.outside.after (left ++ right) = .outside) :
    Quoting.outside.after right = .outside := by
  rwa [Quoting.after_append, Quoting.after_of_no_quote plain] at closed

/-- What holds neither the quote nor a backslash leaves a string open. -/
theorem Quoting.after_inside (quoteless : quote ∉ text) (plain : '\\' ∉ text) :
    (Quoting.inside quote).after text = .inside quote := by
  induction text with
  | nil => rfl
  | cons c text ih =>
    rw [List.mem_cons, not_or] at quoteless plain
    have noQuote : c ≠ quote := fun same => quoteless.1 same.symm
    have noEscape : c ≠ '\\' := fun same => plain.1 same.symm
    have stays : (Quoting.inside quote).next c = .inside quote := by
      simp [Quoting.next, noQuote, noEscape]
    rw [Quoting.after_cons, stays]
    exact ih quoteless.2 plain.2

/-- A string that the scanner sees closed is read up to there, in front of any text. -/
theorem takeString_of_after (closed : (Quoting.inside quote).after text = .outside) :
    ∃ body after, text = body ++ after ∧ Quoting.outside.after after = .outside ∧
      ∀ rest, takeString quote (text ++ rest) = (body, after ++ rest) := by
  fun_induction takeString quote text with
  | case1 => cases closed
  | case2 => cases closed
  | case3 c rest inner later parts ih =>
    obtain ⟨body, after, rfl, closed, taken⟩ := ih closed
    refine ⟨'\\' :: c :: body, after, rfl, closed, fun rest => ?_⟩
    simp only [List.cons_append, takeString, taken]
  | case4 rest alone pair =>
    have plain := ne_backslash alone pair
    have ends : (Quoting.inside quote).next quote = .outside := by simp [Quoting.next, plain]
    rw [Quoting.after_cons, ends] at closed
    refine ⟨[quote], rest, rfl, closed, fun behind => ?_⟩
    rw [List.cons_append, takeString_cons plain, if_pos rfl]
  | case5 c rest alone pair different inner later parts ih =>
    have plain := ne_backslash alone pair
    have stays : (Quoting.inside quote).next c = .inside quote := by
      simp [Quoting.next, plain, different]
    rw [Quoting.after_cons, stays] at closed
    obtain ⟨body, after, rfl, closed, taken⟩ := ih closed
    refine ⟨c :: body, after, rfl, closed, fun behind => ?_⟩
    rw [List.cons_append, takeString_cons plain, if_neg different, taken]

/-- Conversely, what the rewriter reads as a string is closed for the scanner, too,
    unless the text ends in it. -/
theorem after_takeString (quote : Char) (text : List Char) :
    (Quoting.inside quote).after (takeString quote text).1 = .outside ∨
      (takeString quote text).2 = [] := by
  fun_induction takeString quote text with
  | case1 | case2 => exact .inr rfl
  | case3 c rest body after taken ih =>
    rw [taken] at ih
    exact ih
  | case4 rest alone pair =>
    exact .inl (by simp [Quoting.next, ne_backslash alone pair])
  | case5 c rest alone pair different body after taken ih =>
    rw [taken] at ih
    simpa [Quoting.next, ne_backslash alone pair, different] using ih

/-! ## Looking ahead -/

theorem isNameChar_of_isQuote (quoted : isQuote quote = true) : isNameChar quote = false := by
  simp only [isQuote, Bool.or_eq_true, beq_iff_eq] at quoted
  rcases quoted with rfl | rfl <;> rfl

/-- What ends in front of a quote is no longer than the text in front of it. -/
theorem append_quote_cases (absent : quote ∉ left) (same : text ++ quote :: rest = left ++ right) :
    ∃ more, text = left ++ more ∧ right = more ++ quote :: rest := by
  rcases List.append_eq_append_iff.1 same with ⟨more, rfl, tails⟩ | ⟨more, rfl, rfl⟩
  · cases more with
    | nil => exact ⟨[], by simp, by simpa using tails.symm⟩
    | cons d more =>
      obtain ⟨rfl, -⟩ := List.cons.inj tails
      exact absurd (by simp) absent
  · exact ⟨more, rfl, rfl⟩

theorem head?_append_quote (text rest other : List Char) :
    (text ++ quote :: rest).head? = (text ++ quote :: other).head? := by
  cases text <;> rfl

theorem EndsWord.before_string (ends : EndsWord (text ++ quote :: rest)) (other : List Char) :
    EndsWord (text ++ quote :: other) := by
  intro c first
  exact ends c ((head?_append_quote text rest other).trans first)

theorem IsIdentifier.no_quote (identifier : IsIdentifier name) : ∀ c ∈ name, isQuote c = false := by
  intro c inside
  rw [← Bool.not_eq_true]
  intro quoted
  cases (isNameChar_of_isQuote quoted).symm.trans (identifier.2 c inside)

theorem IsKey.no_quote (isKey : IsKey key) : ∀ c ∈ key, isQuote c = false := by
  intro c inside
  rw [← Bool.not_eq_true]
  intro quoted
  have other : c ≠ '$' := by
    rintro rfl
    cases quoted
  exact isKey.not_mem (isNameChar_of_isQuote quoted) other inside

/-- Whether a key is read, and which one, does not depend on what stands behind the
    next quote. -/
theorem takeSubscript?_before_string (quoted : isQuote quote = true)
    (found : takeSubscript? c (text ++ quote :: rest) = some (key, behind)) :
    ∃ read more, text = read ++ more ∧ behind = more ++ quote :: rest ∧
      (∀ d ∈ read, isQuote d = false) ∧
      ∀ other, takeSubscript? c (text ++ quote :: other) = some (key, more ++ quote :: other) := by
  obtain ⟨tail, segment, closed⟩ := takeSubscript?_eq_some_iff.1 found
  obtain ⟨isKey, ends, same⟩ := takeSegment?_eq_some_iff.1 segment
  have absent : quote ∉ key := fun inside => by cases quoted.symm.trans (isKey.no_quote _ inside)
  obtain ⟨more, rfl, rfl⟩ := append_quote_cases absent same
  have segments (other : List Char) : takeSegment? (key ++ more ++ quote :: other) =
      some (key, more ++ quote :: other) :=
    takeSegment?_eq_some_iff.2 ⟨isKey, ends.before_string other, by simp⟩
  by_cases bracketed : c = '['
  · rw [if_pos bracketed] at closed
    cases more with
    | nil =>
      obtain ⟨rfl, -⟩ := List.cons.inj closed
      cases quoted
    | cons d more =>
      obtain ⟨rfl, rfl⟩ := List.cons.inj closed
      refine ⟨key ++ [']'], more, by simp, rfl, ?_, fun other => ?_⟩
      · intro d inside
        rcases List.mem_append.1 inside with inKey | last
        · exact isKey.no_quote d inKey
        · obtain rfl := List.mem_singleton.1 last
          rfl
      · exact takeSubscript?_eq_some_iff.2 ⟨_, segments other, by rw [if_pos bracketed]; rfl⟩
  · rw [if_neg bracketed] at closed
    obtain ⟨rfl, noQuote⟩ := closed
    refine ⟨key, more, rfl, rfl, isKey.no_quote, fun other => ?_⟩
    refine takeSubscript?_eq_some_iff.2 ⟨_, segments other, ?_⟩
    rw [if_neg bracketed]
    exact ⟨rfl, fun d first => noQuote d ((head?_append_quote more rest other).trans first)⟩

theorem takeSubscript?_none_before_string (quoted : isQuote quote = true)
    (absent : takeSubscript? c (text ++ quote :: rest) = none) (other : List Char) :
    takeSubscript? c (text ++ quote :: other) = none := by
  rw [Option.eq_none_iff_forall_not_mem]
  rintro ⟨key, behind⟩ found
  obtain ⟨read, more, -, -, -, same⟩ := takeSubscript?_before_string quoted found
  cases absent.symm.trans (same rest)

theorem IsInert.before_string (quoted : isQuote quote = true)
    (inert : IsInert inChain c (text ++ quote :: rest)) (other : List Char) :
    IsInert inChain c (text ++ quote :: other) where
  quote := inert.quote
  sigil same := (startsName_congr (head?_append_quote text other rest)).trans (inert.sigil same)
  opening := inert.opening
  closing := inert.closing
  dot same chained := takeSubscript?_none_before_string quoted (inert.dot same chained) other
  arrow same chained head := by
    have unnamed := inert.arrow same chained ((head?_append_quote text rest other).trans head)
    cases text with
    | nil =>
      obtain rfl : quote = '>' := Option.some.inj head
      cases quoted
    | cons d text => exact (startsName_congr (head?_append_quote text other rest)).trans unnamed

/-! ## Moves and the scanner of strings -/

/-- Between its moves the rewriter is outside of strings for the scanner, too, unless a
    string runs to the end of the text. -/
theorem Move.outside (move : Move ⟨inChain, brackets, text⟩ written next) :
    ∃ read, text = read ++ next.rest ∧ (Quoting.outside.after read = .outside ∨ next.rest = []) := by
  cases move with
  | @string _ _ c rest body after isString taken =>
    have opens : Quoting.outside.next c = .inside c := by simp [Quoting.next, isString]
    have parts := takeString_split c rest
    have closed := after_takeString c rest
    rw [taken] at parts closed
    refine ⟨c :: body, by rw [List.cons_append, parts], ?_⟩
    rwa [Quoting.after_cons, opens]
  | @name _ _ name after identifier =>
    have plain : ∀ d ∈ '$' :: name, isQuote d = false :=
      List.forall_mem_cons.2 ⟨rfl, identifier.no_quote⟩
    exact ⟨'$' :: name, rfl, .inl (Quoting.after_of_no_quote plain)⟩
  | @property _ name after identifier =>
    have plain : ∀ d ∈ '-' :: '>' :: name, isQuote d = false :=
      List.forall_mem_cons.2 ⟨rfl, List.forall_mem_cons.2 ⟨rfl, identifier.no_quote⟩⟩
    exact ⟨'-' :: '>' :: name, rfl, .inl (Quoting.after_of_no_quote plain)⟩
  | @subscript _ c rest key after opens found =>
    obtain ⟨tail, segment, closed⟩ := takeSubscript?_eq_some_iff.1 found
    obtain ⟨isKey, -, rfl⟩ := takeSegment?_eq_some_iff.1 segment
    have unquoted : isQuote c = false := by rcases opens with rfl | rfl <;> rfl
    have plain : ∀ d ∈ c :: key, isQuote d = false :=
      List.forall_mem_cons.2 ⟨unquoted, isKey.no_quote⟩
    by_cases bracketed : c = '['
    · rw [if_pos bracketed] at closed
      have bracket : ∀ d ∈ [']'], isQuote d = false := by simp [isQuote]
      refine ⟨c :: key ++ [']'], by simp [closed], .inl ?_⟩
      rw [Quoting.after_append, Quoting.after_of_no_quote plain, Quoting.after_of_no_quote bracket]
    · rw [if_neg bracketed] at closed
      obtain ⟨rfl, -⟩ := closed
      exact ⟨c :: key, rfl, .inl (Quoting.after_of_no_quote plain)⟩
  | opening => exact ⟨['['], rfl, .inl rfl⟩
  | closing => exact ⟨[']'], rfl, .inl rfl⟩
  | @inert _ _ c rest inert =>
    exact ⟨[c], rfl, .inl (by simp [Quoting.next, inert.quote])⟩

/-! ## Moves in front of a string -/

/-- A move in front of a string does not look behind the quote that opens it. -/
theorem Move.before_string (quoted : isQuote quote = true)
    (closed : Quoting.outside.after (c :: text) = .outside)
    (move : Move ⟨inChain, brackets, c :: (text ++ quote :: rest)⟩ written next) :
    ∃ more, more.length ≤ text.length ∧ Quoting.outside.after more = .outside ∧
      next.rest = more ++ quote :: rest ∧
      ∀ other, Move ⟨inChain, brackets, c :: (text ++ quote :: other)⟩ written
        ⟨next.inChain, next.brackets, more ++ quote :: other⟩ := by
  have passed (plain : isQuote c = false) : Quoting.outside.after text = .outside :=
    Quoting.outside_behind (List.forall_mem_singleton.2 plain) closed
  generalize whole : c :: (text ++ quote :: rest) = start at move
  cases move with
  | string isString taken =>
    obtain ⟨rfl, rfl⟩ := List.cons.inj whole
    have opens : Quoting.outside.next c = .inside c := by simp [Quoting.next, isString]
    rw [Quoting.after_cons, opens] at closed
    obtain ⟨body, more, rfl, outside, ends⟩ := takeString_of_after closed
    cases (ends _).symm.trans taken
    exact ⟨more, by simp, outside, rfl, fun other => .string isString (ends _)⟩
  | name identifier ends =>
    obtain ⟨rfl, same⟩ := List.cons.inj whole
    have absent := identifier.not_mem (isNameChar_of_isQuote quoted)
    obtain ⟨more, rfl, rfl⟩ := append_quote_cases absent same
    refine ⟨more, by simp, Quoting.outside_behind identifier.no_quote (passed rfl), rfl,
      fun other => ?_⟩
    rw [List.append_assoc]
    exact .name identifier (ends.before_string other)
  | property identifier ends =>
    obtain ⟨rfl, same⟩ := List.cons.inj whole
    have absent := identifier.not_mem (isNameChar_of_isQuote quoted)
    cases text with
    | nil =>
      obtain ⟨rfl, -⟩ := List.cons.inj same
      cases quoted
    | cons d text =>
      obtain ⟨rfl, tails⟩ := List.cons.inj same
      obtain ⟨more, rfl, rfl⟩ := append_quote_cases absent tails
      have behind : Quoting.outside.after (_ ++ more) = .outside := passed rfl
      refine ⟨more, ?_, Quoting.outside_behind identifier.no_quote behind, rfl, fun other => ?_⟩
      · simp only [List.length_cons, List.length_append]
        omega
      rw [List.cons_append, List.append_assoc]
      exact .property identifier (ends.before_string other)
  | subscript opens found =>
    obtain ⟨rfl, rfl⟩ := List.cons.inj whole
    obtain ⟨read, more, rfl, rfl, plain, same⟩ := takeSubscript?_before_string quoted found
    have unquoted : isQuote c = false := by rcases opens with rfl | rfl <;> rfl
    exact ⟨more, by simp, Quoting.outside_behind plain (passed unquoted), rfl,
      fun other => .subscript opens (same other)⟩
  | opening left =>
    obtain ⟨rfl, rfl⟩ := List.cons.inj whole
    exact ⟨text, Nat.le_refl _, passed rfl, rfl, fun other =>
      .opening fun chained => takeSubscript?_none_before_string quoted (left chained) other⟩
  | closing =>
    obtain ⟨rfl, rfl⟩ := List.cons.inj whole
    exact ⟨text, Nat.le_refl _, passed rfl, rfl, fun other => .closing⟩
  | inert inert =>
    obtain ⟨rfl, rfl⟩ := List.cons.inj whole
    exact ⟨text, Nat.le_refl _, passed inert.quote, rfl, fun other =>
      .inert (inert.before_string quoted other)⟩

/-- The rewriter gets to a string in the same state and with the same output, whatever
    the string holds and whatever stands behind it. -/
theorem output_before_string (quoted : isQuote quote = true)
    (closed : Quoting.outside.after text = .outside) (inChain : Bool) (brackets : List Bool) :
    ∃ front chained opened, ∀ rest,
      (Reading.mk inChain brackets (text ++ quote :: rest)).output =
        front ++ (Reading.mk chained opened (quote :: rest)).output := by
  induction size : text.length using Nat.strongRecOn generalizing text inChain brackets with
  | ind n ih =>
    cases text with
    | nil => exact ⟨[], inChain, brackets, fun rest => rfl⟩
    | cons c text =>
      obtain ⟨written, next, move⟩ := exists_move inChain brackets c (text ++ quote :: [])
      obtain ⟨more, shorter, closed, -, moves⟩ := move.before_string quoted closed
      have lower : more.length < n := size ▸ Nat.lt_succ_of_le shorter
      obtain ⟨front, chained, opened, later⟩ := ih _ lower closed next.inChain next.brackets rfl
      refine ⟨written ++ front, chained, opened, fun rest => ?_⟩
      rw [List.cons_append, (moves rest).output_eq, later, List.append_assoc]

/-- What is written around a string that begins outside of all others does not depend
    on what it holds, and the string is kept. -/
theorem quoteSubscripts_apart (before after : List Char) (quoted : isQuote quote = true)
    (closed : Quoting.outside.after before = .outside) :
    ∃ front back, ∀ text, quote ∉ text → '\\' ∉ text →
      quoteSubscripts (before ++ quote :: (text ++ quote :: after)) =
        front ++ quote :: (text ++ quote :: back) := by
  obtain ⟨front, chained, opened, same⟩ := output_before_string quoted closed false []
  refine ⟨front, (Reading.mk false opened after).output, fun text quoteless plain => ?_⟩
  have string := takeString_string quoted quoteless plain after
  have whole := same (text ++ quote :: after)
  rw [(Move.string quoted string).output_eq] at whole
  show (Reading.mk false [] _).output = _
  rw [whole]
  simp

/-- A string between a chain and a key behind it. -/
theorem quoteSubscripts_apart_concat :
    isQuote '"' = true ∧ Quoting.outside.after "$a.b['k'].c . ".toList = .outside ∧
      ∃ front back, ∀ text, '"' ∉ text → '\\' ∉ text →
        quoteSubscripts ("$a.b['k'].c . ".toList ++ '"' :: (text ++ '"' :: ".d $e.f".toList)) =
          front ++ '"' :: (text ++ '"' :: back) := by
  have closed : Quoting.outside.after "$a.b['k'].c . ".toList = .outside := by decide
  exact ⟨rfl, closed, quoteSubscripts_apart _ _ rfl closed⟩

end Stencil.Expr
