import Stencil.Expr.Resolve
import Stencil.Proofs.ModifierChains
import Stencil.Proofs.PlainText
import Stencil.Proofs.TagExtent

/-! # Quoted strings

What stands in a quoted string is passed over: no brace in it ends a candidate, no
dot or bracket is a subscript, no equals sign assigns and no pipe begins a
modifier.  The strings here hold no quote and no backslash, so that they end at the
next quote however strings are read.

* `Enclosed` — what can stand between the braces of a candidate;
* `quoteFrom_string` — strings and subscripts;
* `resolve_string` — an expression that is nothing but a string;
* `resolve_modifier` — a variable with a modifier that takes a string.
-/

namespace Stencil.Template

variable {quote : Option Char} {inner text rest : List Char}

/-! ## Candidates -/

/-- Behind a string the text counts again. -/
theorem allQuoted_string (quoteless : '"' ∉ text) :
    AllQuoted none ('"' :: (text ++ '"' :: rest)) ↔ AllQuoted none rest := by
  have inside : AllQuoted (some '"') (text ++ '"' :: rest) ↔ AllQuoted none rest := by
    induction text with
    | nil => simp [allQuoted_cons, nextQuote]
    | cons c text ih =>
      rw [List.mem_cons, not_or] at quoteless
      have other : c ≠ '"' := fun same => quoteless.1 same.symm
      simp [allQuoted_cons, nextQuote, other, ih quoteless.2]
  have opens : nextQuote none '"' = some '"' := rfl
  rw [allQuoted_cons, opens, inside]
  simp

theorem openQuote_string (quoteless : '"' ∉ text) :
    openQuote none ('"' :: (text ++ '"' :: rest)) = openQuote none rest := by
  have opens : nextQuote none '"' = some '"' := rfl
  have closes : nextQuote (some '"') '"' = none := rfl
  rw [openQuote_cons, opens, openQuote_append, openQuote_of_not_mem quoteless, openQuote_cons,
    closes]

/-- A text whose strings are all closed and whose closing braces all stand in them. -/
def Enclosed (text : List Char) : Prop := openQuote none text = none ∧ AllQuoted none text

theorem enclosed_nil : Enclosed [] := ⟨rfl, by simp [AllQuoted]⟩

theorem Enclosed.cons {c : Char} (enclosed : Enclosed rest) (noQuote : isQuote c = false)
    (noBrace : c ≠ '}') : Enclosed (c :: rest) := by
  have next : nextQuote none c = none := by simp [nextQuote, noQuote]
  refine ⟨?_, allQuoted_cons.2 ⟨fun brace => absurd brace noBrace, ?_⟩⟩
  · rw [openQuote_cons, next]
    exact enclosed.1
  · rw [next]
    exact enclosed.2

theorem Enclosed.append (enclosed : Enclosed rest) (quoteless : ∀ c ∈ text, isQuote c = false)
    (braceless : '}' ∉ text) : Enclosed (text ++ rest) := by
  induction text with
  | nil => exact enclosed
  | cons c text ih =>
    rw [List.forall_mem_cons] at quoteless
    rw [List.mem_cons, not_or] at braceless
    exact (ih quoteless.2 braceless.2).cons quoteless.1 (Ne.symm braceless.1)

theorem Enclosed.string (enclosed : Enclosed rest) (quoteless : '"' ∉ text) :
    Enclosed ('"' :: (text ++ '"' :: rest)) :=
  ⟨(openQuote_string quoteless).trans enclosed.1, (allQuoted_string quoteless).2 enclosed.2⟩

/-- A candidate goes up to the first closing brace outside strings. -/
theorem closeCandidate_of_allQuoted (closed : openQuote quote inner = none)
    (quoted : AllQuoted quote inner) :
    closeCandidate quote (inner ++ '}' :: rest) = some (inner ++ ['}'], rest) := by
  induction inner generalizing quote with
  | nil =>
    cases closed
    rfl
  | cons c inner ih =>
    obtain ⟨here, later⟩ := allQuoted_cons.1 quoted
    have tail := ih closed later
    cases quote with
    | none =>
      have noBrace : c ≠ '}' := fun brace => here brace rfl
      rw [List.cons_append, closeCandidate, if_neg noBrace]
      show (closeCandidate (nextQuote none c) _).map _ = _
      rw [tail]
      rfl
    | some quote =>
      rw [List.cons_append]
      show (closeCandidate (nextQuote (some quote) c) _).map _ = _
      rw [tail]
      rfl

theorem Enclosed.isCandidate {first : Char} (enclosed : Enclosed inner)
    (noQuote : isQuote first = false) (noBrace : first ≠ '}') :
    IsCandidate ('{' :: first :: (inner ++ ['}'])) first inner :=
  ⟨rfl, noQuote, noBrace, enclosed.1, enclosed.2⟩

theorem candidate?_of_isCandidate {first : Char} (candidate : IsCandidate text first inner) :
    candidate? text = some (text, []) := by
  have closes : closeCandidate none (inner ++ '}' :: []) = some (inner ++ ['}'], []) :=
    closeCandidate_of_allQuoted candidate.closed candidate.quoted
  rw [candidate.text_eq, candidate?]
  simp [candidate.first_quote, candidate.first_brace, closes]

/-- A candidate is cut as a whole, whether comments are stripped or not. -/
theorem tokenize_of_isCandidate {first : Char} (candidate : IsCandidate text first inner)
    (stripComments : Bool) :
    tokenize stripComments text = [⟨.candidate, text, .ofBounds 0 (Text.byteLength text)⟩] := by
  have noComment : comment? text = none := by rw [candidate.text_eq, comment?]; simp
  have cut : cut? stripComments text = some (⟨.candidate, text⟩, []) := by
    rw [cut?, noComment, ite_self, candidate?_of_isCandidate candidate]
    rfl
  simp [tokenize, pieces_of_cut cut, pieces, placeFrom]

end Stencil.Template

namespace Stencil.Expr

open Stencil.Text

variable {text rest : List Char}

/-! ## Scanning -/

/-- Characters of a string. -/
def inString (text : List Char) : List (Char × Bool) := text.map fun c => (c, false)

theorem markFrom_inside (quoteless : '"' ∉ text) (plain : '\\' ∉ text) (rest : List Char) :
    markFrom (.inside '"') (text ++ rest) = inString text ++ markFrom (.inside '"') rest := by
  induction text with
  | nil => rfl
  | cons c text ih =>
    rw [List.mem_cons, not_or] at quoteless plain
    have noQuote : c ≠ '"' := fun same => quoteless.1 same.symm
    have noEscape : c ≠ '\\' := fun same => plain.1 same.symm
    simp [markFrom, Quoting.next, inString, noQuote, noEscape, ih quoteless.2 plain.2]

/-- The quotes count as part of their string. -/
theorem markFrom_string (quoteless : '"' ∉ text) (plain : '\\' ∉ text) (rest : List Char) :
    markFrom .outside ('"' :: (text ++ '"' :: rest)) =
      inString ('"' :: (text ++ ['"'])) ++ markFrom .outside rest := by
  simp [markFrom, Quoting.next, Template.isQuote, markFrom_inside quoteless plain, inString]

theorem markFrom_open (quoteless : '"' ∉ text) (plain : '\\' ∉ text) :
    markFrom .outside ('"' :: text) = inString ('"' :: text) := by
  have inside := markFrom_inside quoteless plain []
  simp only [List.append_nil] at inside
  simp [markFrom, Quoting.next, Template.isQuote, inside, inString]

theorem assigns_inString {previous : Option Char} :
    assigns previous (inString text) = false := by
  induction text generalizing previous with
  | nil => rfl
  | cons c text ih => simpa [inString, assigns] using ih

theorem startsWithOr_inString : startsWithOr (inString text) = true := by
  induction text with
  | nil => rfl
  | cons c text ih => simpa [inString, startsWithOr] using ih

/-! ## Subscripts -/

/-- Strings have no subscripts. -/
theorem quoteFrom_string {brackets : List Bool} {inChain : Bool} (quoteless : '"' ∉ text)
    (plain : '\\' ∉ text) :
    quoteFrom inChain brackets ('"' :: (text ++ '"' :: rest)) =
      '"' :: (text ++ '"' :: quoteFrom false brackets rest) := by
  have move : Move ⟨inChain, brackets, '"' :: (text ++ '"' :: rest)⟩ ('"' :: (text ++ ['"']))
      ⟨false, brackets, rest⟩ := .string rfl (takeString_string rfl quoteless plain rest)
  have output := move.output_eq
  rw [List.cons_append, List.append_assoc, List.singleton_append] at output
  exact output

theorem quoteFrom_open {brackets : List Bool} {inChain : Bool} (quoteless : '"' ∉ text)
    (plain : '\\' ∉ text) : quoteFrom inChain brackets ('"' :: text) = '"' :: text := by
  have taken : takeString '"' (text ++ []) = (text, []) := by
    rw [takeString_append quoteless plain]
    simp [takeString]
  rw [List.append_nil] at taken
  have isString : Template.isQuote '"' = true := rfl
  rw [quoteFrom, if_pos isString]
  simp [taken, quoteFrom]

/-- A character that begins nothing is copied. -/
theorem quoteFrom_cons {brackets : List Bool} {inChain : Bool} {c : Char}
    (plain : c ∉ ['"', '\'', '$', '[', ']', '.', '-']) :
    quoteFrom inChain brackets (c :: rest) = c :: quoteFrom false brackets rest := by
  simp only [List.mem_cons, List.not_mem_nil, or_false, not_or] at plain
  rw [quoteFrom]
  simp [Template.isQuote, plain]

/-! ## Expressions -/

/-- Where everything counts as part of strings, there is nothing to resolve. -/
theorem resolve_of_inString (marked : mark text = inString text)
    (kept : quoteSubscripts text = text) : (resolve text 0 none).expr = .code text := by
  have noModifier : composeModifiers text = .code text := by
    simp [composeModifiers, splitChain?, marked, startsWithOr_inString]
  have same : renameBindings 0 text = text := if_pos rfl
  unfold resolve
  rw [same]
  by_cases references : hasVariable text = true
  · simp [references, kept, noModifier]
  · simp [references]

/-- An expression that is a string is that string. -/
theorem resolve_string (quoteless : '"' ∉ text) (plain : '\\' ∉ text) :
    (resolve ('"' :: (text ++ ['"'])) 0 none).expr = .code ('"' :: (text ++ ['"'])) := by
  refine resolve_of_inString ?_ ?_
  · have marked := markFrom_string quoteless plain []
    simpa [mark, markFrom] using marked
  · have kept : quoteFrom false [] ('"' :: (text ++ '"' :: [])) =
        '"' :: (text ++ '"' :: quoteFrom false [] []) := quoteFrom_string quoteless plain
    simpa [quoteSubscripts, quoteFrom] using kept

/-- So is a string that is not closed. -/
theorem resolve_open (quoteless : '"' ∉ text) (plain : '\\' ∉ text) :
    (resolve ('"' :: text) 0 none).expr = .code ('"' :: text) :=
  resolve_of_inString (markFrom_open quoteless plain) (quoteFrom_open quoteless plain)

/-- No pipe divides a string. -/
theorem isChainPart_string (quoteless : '"' ∉ text) (plain : '\\' ∉ text) :
    IsChainPart ('"' :: (text ++ ['"'])) where
  closed := by
    have opens : Quoting.outside.next '"' = .inside '"' := rfl
    rw [Quoting.after_cons, opens, Quoting.after_append, Quoting.after_inside quoteless plain]
    rfl
  pipeless := by
    have marked := markFrom_string quoteless plain []
    rw [mark, marked]
    simp [inString, markFrom]

/-- A modifier with a string is spelled properly. -/
theorem isProper_string (quoteless : '"' ∉ text) (plain : '\\' ∉ text) :
    (SpelledModifier.mk [] ['f'] (some ('"' :: (text ++ ['"']))) []).IsProper := by
  have name : IsModifierName ['f'] :=
    ⟨by decide, by simp [Template.isQuote], by decide, by simp [isBlank], by simp [isBlank],
      by decide⟩
  refine ⟨List.forall_mem_nil _, List.forall_mem_nil _, name, ?_⟩
  rintro _ ⟨⟩
  refine ⟨isChainPart_string quoteless plain, by simp, ?_⟩
  rw [← List.cons_append, List.getLast?_append_cons]
  simp [isBlank]

/-- A variable with a modifier that takes a string. -/
theorem resolve_modifier (quoteless : '"' ∉ text) (plain : '\\' ∉ text) :
    resolve ('$' :: 'x' :: '|' :: 'f' :: ':' :: '"' :: (text ++ ['"'])) 0 none =
      ⟨.modifier ['f'] (.code ['$', 'x']) (some ('"' :: (text ++ ['"']))), true, false⟩ := by
  have references :
      hasVariable ('$' :: 'x' :: '|' :: 'f' :: ':' :: '"' :: (text ++ ['"'])) = true := rfl
  have kept : quoteSubscripts ('$' :: 'x' :: '|' :: 'f' :: ':' :: '"' :: (text ++ ['"'])) =
      '$' :: 'x' :: '|' :: 'f' :: ':' :: '"' :: (text ++ ['"']) := by
    have sigil : Template.isQuote '$' = false := rfl
    have named : isNameChar 'x' = true ∧ isNameStart 'x' = true ∧ isNameChar '|' = false := by
      decide
    rw [quoteSubscripts, quoteFrom]
    simp only [sigil, startsName, named, decide_true, Bool.and_self, Bool.false_eq_true, if_false,
      if_true, List.takeWhile_cons, List.dropWhile_cons]
    rw [quoteFrom_cons (by decide), quoteFrom_cons (by decide), quoteFrom_cons (by decide),
      quoteFrom_string quoteless plain, quoteFrom]
    rfl
  have marked : mark ('$' :: 'x' :: '|' :: 'f' :: ':' :: '"' :: (text ++ ['"'])) =
      ('$', true) :: ('x', true) :: ('|', true) :: ('f', true) :: (':', true) ::
        inString ('"' :: (text ++ ['"'])) := by
    have string := markFrom_string quoteless plain []
    show ('$', true) :: ('x', true) :: ('|', true) :: ('f', true) :: (':', true) ::
      markFrom .outside ('"' :: (text ++ '"' :: [])) = _
    rw [string, markFrom, List.append_nil]
  have value : isAssignment ('$' :: 'x' :: '|' :: 'f' :: ':' :: '"' :: (text ++ ['"'])) =
      false := by
    simp [isAssignment, marked, assigns, assigns_inString]
  have chain : composeModifiers ('$' :: 'x' :: '|' :: 'f' :: ':' :: '"' :: (text ++ ['"'])) =
      .modifier ['f'] (.code ['$', 'x']) (some ('"' :: (text ++ ['"']))) := by
    have part : IsChainPart ['$', 'x'] := by decide
    have base : trimEnd ['$', 'x'] = ['$', 'x'] := by decide
    have whole := SpelledModifier.composeModifiers_chain part (List.cons_ne_nil _ [])
      (List.forall_mem_singleton.2 (isProper_string quoteless plain))
    simpa [SpelledModifier.chain, SpelledModifier.written, SpelledModifier.core,
      SpelledModifier.argumentsBehind, SpelledModifier.applied, base] using whole
  have same (text : List Char) : renameBindings 0 text = text := if_pos rfl
  unfold resolve
  rw [same, if_pos references, kept]
  simp [value, chain]

end Stencil.Expr
