import Mathlib.Data.List.DropRight
import Stencil.Expr.Modifier
import Stencil.Php.Emit
import Stencil.Proofs.StringTracking

/-! # Modifier chains and the calls they spell

A chain is taken apart at its pipes and its modifiers at their first lone colon,
whatever pipes and colons stand in strings or belong to a `::`.  The modifiers are
applied in the order in which they are written, so that the last one is outermost.

* `IsChainPart` — text that no pipe outside strings divides;
* `chainPieces_append` — everything about pipes follows from this one equation;
* `SpelledModifier` — a modifier and the blanks around it;
* `IsProper.parseModifier_written` — it is read as it is spelled;
* `composeModifiers_spelled` — so are whole chains, and printed as nested calls.
-/

namespace Stencil.Expr

open Stencil.Template (isQuote)
open Stencil.Text (isBlank trim trimStart trimEnd)

variable {text left right blanks : List Char} {marked behind : List (Char × Bool)}
  {previous : Option Char}

/-! ## Text without a pipe -/

/-- A text whose strings are all closed and that has no pipe outside of them. -/
structure IsChainPart (text : List Char) : Prop where
  closed : Quoting.outside.after text = .outside
  pipeless : ('|', true) ∉ mark text

instance (text : List Char) : Decidable (IsChainPart text) :=
  decidable_of_iff (Quoting.outside.after text = .outside ∧ ('|', true) ∉ mark text)
    ⟨fun ⟨closed, pipeless⟩ => ⟨closed, pipeless⟩, fun part => ⟨part.closed, part.pipeless⟩⟩

theorem markFrom_append (state : Quoting) (left right : List Char) :
    markFrom state (left ++ right) = markFrom state left ++ markFrom (state.after left) right := by
  induction left generalizing state with
  | nil => rfl
  | cons c left ih => simp [markFrom, ih]

theorem IsChainPart.mark_append (part : IsChainPart left) (right : List Char) :
    mark (left ++ right) = mark left ++ mark right := by
  rw [mark, markFrom_append, part.closed, ← mark, ← mark]

theorem IsChainPart.mark_pipe (part : IsChainPart left) (right : List Char) :
    mark (left ++ '|' :: right) = mark left ++ ('|', true) :: mark right :=
  part.mark_append ('|' :: right)

theorem IsChainPart.append (first : IsChainPart left) (second : IsChainPart right) :
    IsChainPart (left ++ right) where
  closed := by rw [Quoting.after_append, first.closed, second.closed]
  pipeless := by
    rw [first.mark_append, List.mem_append]
    exact not_or.2 ⟨first.pipeless, second.pipeless⟩

theorem isChainPart_of_no_quote (plain : ∀ c ∈ text, isQuote c = false) (pipeless : '|' ∉ text) :
    IsChainPart text where
  closed := Quoting.after_of_no_quote plain
  pipeless outside := by
    have inside : '|' ∈ (mark text).map Prod.fst := List.mem_map.2 ⟨_, outside, rfl⟩
    rw [map_fst_mark] at inside
    exact pipeless inside

theorem IsChainPart.head?_ne (part : IsChainPart text) : text.head? ≠ some '|' := by
  cases text with
  | nil => simp
  | cons c text =>
    rintro ⟨⟩
    exact part.pipeless (.head _)

/-- A pipe at the end would stand in a string that is still open. -/
theorem IsChainPart.getLast?_ne (part : IsChainPart text) : text.getLast? ≠ some '|' := by
  intro last
  obtain ⟨front, rfl⟩ := List.getLast?_eq_some_iff.1 last
  have opened : (Quoting.outside.after front).Opened := Quoting.opened_after Quoting.opened_outside front
  have closed := part.closed
  have pipeless := part.pipeless
  rw [Quoting.after_append] at closed
  rw [mark, markFrom_append, List.mem_append, not_or] at pipeless
  cases state : Quoting.outside.after front with
  | outside =>
    rw [state] at pipeless
    exact pipeless.2 (.head _)
  | inside quote =>
    rw [state] at closed opened
    have different : '|' ≠ quote := by
      rintro rfl
      cases opened
    simp [Quoting.next, different] at closed
  | escaped quote =>
    rw [state] at closed
    cases closed

/-! ## Pipes -/

theorem not_pipe_of_not_mem {c : Char} {outside : Bool}
    (pipeless : ('|', true) ∉ (c, outside) :: marked) : ¬ (c = '|' ∧ outside = true) := by
  rintro ⟨rfl, rfl⟩
  exact pipeless (.head _)

/-- Without a pipe there is one piece. -/
theorem chainPieces_of_no_pipe (previous : Option Char) (pipeless : ('|', true) ∉ marked) :
    chainPieces previous marked = [marked.map Prod.fst] := by
  induction marked generalizing previous with
  | nil => rfl
  | cons first marked ih =>
    obtain ⟨c, outside⟩ := first
    have other := not_pipe_of_not_mem pipeless
    rw [chainPieces, ih (some c) fun inside => pipeless (.tail _ inside)]
    simp [other]

/-- The first pipe divides the pieces if it stands next to no other one. -/
theorem chainPieces_append (pipeless : ('|', true) ∉ marked)
    (last : marked.getLast?.map Prod.fst ≠ some '|') (apart : previous = some '|' → marked ≠ [])
    (lone : behind.head?.map Prod.fst ≠ some '|') :
    chainPieces previous (marked ++ ('|', true) :: behind) =
      marked.map Prod.fst :: chainPieces (some '|') behind := by
  induction marked generalizing previous with
  | nil =>
    have front : previous ≠ some '|' := fun same => apart same rfl
    simp [chainPieces, front, lone]
  | cons first marked ih =>
    obtain ⟨c, outside⟩ := first
    have other := not_pipe_of_not_mem pipeless
    rw [List.cons_append, chainPieces, ih (fun inside => pipeless (.tail _ inside))]
    · simp [other]
    · cases marked with
      | nil => simp
      | cons => rwa [List.getLast?_cons_cons] at last
    · rintro same rfl
      exact last same

/-- A part in front of a pipe is the first piece. -/
theorem IsChainPart.chainPieces_pipe (part : IsChainPart left)
    (apart : previous = some '|' → left ≠ [])
    (lone : (mark right).head?.map Prod.fst ≠ some '|') :
    chainPieces previous (mark (left ++ '|' :: right)) =
      left :: chainPieces (some '|') (mark right) := by
  have last : (mark left).getLast?.map Prod.fst ≠ some '|' := by
    rw [← List.getLast?_map, map_fst_mark]
    exact part.getLast?_ne
  have marked : previous = some '|' → mark left ≠ [] := by
    intro same unmarked
    have whole := map_fst_mark left
    rw [unmarked] at whole
    exact apart same whole.symm
  rw [part.mark_pipe, chainPieces_append part.pipeless last marked lone, map_fst_mark]

theorem startsWithOr_append (pipeless : ('|', true) ∉ marked)
    (lone : behind.head?.map Prod.fst ≠ some '|') :
    startsWithOr (marked ++ ('|', true) :: behind) = false := by
  induction marked with
  | nil => simp [startsWithOr, lone]
  | cons first marked ih =>
    obtain ⟨c, outside⟩ := first
    have other := not_pipe_of_not_mem pipeless
    rw [List.cons_append, startsWithOr, if_neg (by simpa using other)]
    exact ih fun inside => pipeless (.tail _ inside)

/-! ## Colons -/

/-- A text whose colons all belong to a `::`. -/
inductive ColonsPaired : List Char → Prop where
  | nil : ColonsPaired []
  | pair {rest : List Char} (paired : ColonsPaired rest) : ColonsPaired (':' :: ':' :: rest)
  | other {c : Char} {rest : List Char} (plain : c ≠ ':') (paired : ColonsPaired rest) :
      ColonsPaired (c :: rest)

section Colons

variable {name arguments : List Char} {c : Char}

theorem splitColon?_cons (plain : c ≠ ':') (rest : List Char) :
    splitColon? (c :: rest) =
      (splitColon? rest).map fun (name, arguments) => (c :: name, arguments) := by
  rw [splitColon?, if_neg plain]
  rintro _ rfl
  exact absurd rfl plain

theorem splitColon?_eq_none_iff : splitColon? name = none ↔ ColonsPaired name := by
  constructor
  · intro unsplit
    fun_induction splitColon? name with
    | case1 => exact .nil
    | case2 rest ih => exact .pair (ih (Option.map_eq_none_iff.1 unsplit))
    | case3 => cases unsplit
    | case4 c rest _ plain ih => exact .other plain (ih (Option.map_eq_none_iff.1 unsplit))
  · intro paired
    induction paired with
    | nil => rfl
    | pair _ ih => rw [splitColon?, ih, Option.map_none]
    | other plain _ ih => rw [splitColon?_cons plain, ih, Option.map_none]

instance (name : List Char) : Decidable (ColonsPaired name) :=
  decidable_of_iff _ splitColon?_eq_none_iff

/-- The first colon that is not half of a `::` divides a name from its arguments. -/
theorem ColonsPaired.splitColon?_append (paired : ColonsPaired name)
    (lone : arguments.head? ≠ some ':') :
    splitColon? (name ++ ':' :: arguments) = some (name, arguments) := by
  induction paired with
  | nil =>
    rw [List.nil_append, splitColon?, if_pos rfl]
    rintro rest - rfl
    exact lone rfl
  | pair _ ih => rw [List.cons_append, List.cons_append, splitColon?, ih, Option.map_some]
  | other plain _ ih => rw [List.cons_append, splitColon?_cons plain, ih, Option.map_some]

end Colons

/-! ## Blanks -/

theorem trimStart_append (blank : ∀ c ∈ blanks, isBlank c = true) (text : List Char) :
    trimStart (blanks ++ text) = trimStart text :=
  List.dropWhile_append_of_pos blank

theorem trimEnd_append (blank : ∀ c ∈ blanks, isBlank c = true) (text : List Char) :
    trimEnd (text ++ blanks) = trimEnd text := by
  have reversed : ∀ c ∈ blanks.reverse, isBlank c = true := fun c inside =>
    blank c (List.mem_reverse.1 inside)
  rw [trimEnd, List.reverse_append, List.dropWhile_append_of_pos reversed, ← trimEnd]

theorem trimStart_eq_self (front : ∀ c ∈ text.head?, isBlank c = false) : trimStart text = text := by
  cases text with
  | nil => rfl
  | cons c text => exact List.dropWhile_cons_of_neg (by simp [front c rfl])

theorem trimEnd_eq_self (back : ∀ c ∈ text.getLast?, isBlank c = false) : trimEnd text = text := by
  refine List.rdropWhile_eq_self_iff.2 fun filled => ?_
  simp [back _ (List.getLast?_eq_some_getLast filled)]

theorem isChainPart_of_blank (blank : ∀ c ∈ blanks, isBlank c = true) : IsChainPart blanks := by
  refine isChainPart_of_no_quote (fun c inside => ?_) fun inside => ?_
  · rw [← Bool.not_eq_true]
    intro quoted
    have blank := blank c inside
    simp only [isQuote, Bool.or_eq_true, beq_iff_eq] at quoted
    rcases quoted with rfl | rfl <;> cases blank
  · cases blank '|' inside

/-! ## Modifiers as they are spelled -/

/-- A name that the scanners pass: no quote, pipe or lone colon stands in it, and no
    blank at either end. -/
structure IsModifierName (name : List Char) : Prop where
  filled : name ≠ []
  quoteless : ∀ c ∈ name, isQuote c = false
  pipeless : '|' ∉ name
  front : ∀ c ∈ name.head?, isBlank c = false
  back : ∀ c ∈ name.getLast?, isBlank c = false
  paired : ColonsPaired name

/-- Arguments that the scanners pass.  A colon at the beginning would make a `::` of
    the one in front of it. -/
structure IsModifierArguments (arguments : List Char) : Prop where
  part : IsChainPart arguments
  lone : arguments.head? ≠ some ':'
  back : ∀ c ∈ arguments.getLast?, isBlank c = false

/-- A modifier and the blanks around it, behind its pipe and in front of the next one. -/
structure SpelledModifier where
  leading : List Char
  name : List Char
  arguments : Option (List Char)
  trailing : List Char

namespace SpelledModifier

variable {m : SpelledModifier} {modifiers : List SpelledModifier}

/-- The arguments behind a separator, if there are any. -/
def argumentsBehind (m : SpelledModifier) (separator : Char) : List Char :=
  match m.arguments with
  | none => []
  | some arguments => separator :: arguments

/-- A modifier without the blanks around it. -/
def core (m : SpelledModifier) : List Char := m.name ++ m.argumentsBehind ':'

/-- What stands behind the pipe of a modifier. -/
def written (m : SpelledModifier) : List Char := m.leading ++ m.core ++ m.trailing

/-- Modifiers with their pipes. -/
def chain (modifiers : List SpelledModifier) : List Char :=
  modifiers.flatMap fun m => '|' :: m.written

/-- The application a modifier stands for. -/
def applied (target : Expr) (m : SpelledModifier) : Expr := .modifier m.name target m.arguments

/-- The call a modifier stands for, with the code of its first argument. -/
def called (target : List Char) (m : SpelledModifier) : List Char :=
  m.name ++ '(' :: (target ++ m.argumentsBehind ',' ++ [')'])

/-- Blanks around a name and arguments that the scanners pass. -/
structure IsProper (m : SpelledModifier) : Prop where
  leading : ∀ c ∈ m.leading, isBlank c = true
  trailing : ∀ c ∈ m.trailing, isBlank c = true
  name : IsModifierName m.name
  arguments : ∀ arguments ∈ m.arguments, IsModifierArguments arguments

theorem core_of_none (absent : m.arguments = none) : m.core = m.name := by
  simp [core, argumentsBehind, absent]

theorem core_of_some {arguments : List Char} (given : m.arguments = some arguments) :
    m.core = m.name ++ ':' :: arguments := by
  simp [core, argumentsBehind, given]

theorem IsProper.core_ne_nil (proper : m.IsProper) : m.core ≠ [] := by
  simp [core, proper.name.filled]

theorem IsProper.written_ne_nil (proper : m.IsProper) : m.written ≠ [] := by
  simp [written, proper.core_ne_nil]

theorem IsProper.isChainPart (proper : m.IsProper) : IsChainPart m.written := by
  have name := isChainPart_of_no_quote proper.name.quoteless proper.name.pipeless
  have core : IsChainPart m.core := by
    cases given : m.arguments with
    | none => rwa [core_of_none given]
    | some arguments =>
      have colon : IsChainPart [':'] := by decide
      rw [core_of_some given]
      exact name.append (colon.append (proper.arguments _ given).part)
  exact ((isChainPart_of_blank proper.leading).append core).append
    (isChainPart_of_blank proper.trailing)

/-- The pipe in front of a modifier is no half of a `||`. -/
theorem IsProper.lone (proper : m.IsProper) (rest : List Char) :
    (mark (m.written ++ rest)).head?.map Prod.fst ≠ some '|' := by
  rw [head?_mark, List.head?_append_of_ne_nil _ proper.written_ne_nil]
  exact proper.isChainPart.head?_ne

/-- What is spelled neither begins nor ends with a blank. -/
theorem IsProper.trim_written (proper : m.IsProper) : trim m.written = m.core := by
  have front : ∀ c ∈ (m.core ++ m.trailing).head?, isBlank c = false := by
    rw [List.head?_append_of_ne_nil _ proper.core_ne_nil, core,
      List.head?_append_of_ne_nil _ proper.name.filled]
    exact proper.name.front
  have back : ∀ c ∈ m.core.getLast?, isBlank c = false := by
    cases given : m.arguments with
    | none =>
      rw [core_of_none given]
      exact proper.name.back
    | some arguments =>
      rw [core_of_some given, List.getLast?_append_cons]
      cases arguments with
      | nil => simp [isBlank]
      | cons c arguments =>
        rw [List.getLast?_cons_cons]
        exact (proper.arguments _ given).back
  rw [trim, written, List.append_assoc, trimStart_append proper.leading, trimStart_eq_self front,
    trimEnd_append proper.trailing, trimEnd_eq_self back]

/-- A modifier is read as it is spelled. -/
theorem IsProper.parseModifier_written (proper : m.IsProper) :
    parseModifier m.written = (m.name, m.arguments) := by
  rw [parseModifier, proper.trim_written]
  cases given : m.arguments with
  | none => rw [core_of_none given, splitColon?_eq_none_iff.2 proper.name.paired]
  | some arguments =>
    rw [core_of_some given,
      proper.name.paired.splitColon?_append (proper.arguments _ given).lone]
    simp only [trimEnd_eq_self proper.name.back]

theorem IsProper.applyModifier_written (proper : m.IsProper) (target : Expr) :
    applyModifier target m.written = applied target m := by
  rw [applyModifier, proper.parseModifier_written]
  rfl

/-- A chain is cut at the pipe of every modifier. -/
theorem chainPieces_chain (part : IsChainPart text) (apart : previous = some '|' → text ≠ [])
    (proper : ∀ m ∈ modifiers, m.IsProper) :
    chainPieces previous (mark (text ++ chain modifiers)) = text :: modifiers.map written := by
  induction modifiers generalizing text previous with
  | nil =>
    rw [chain, List.flatMap_nil, List.append_nil, chainPieces_of_no_pipe _ part.pipeless,
      map_fst_mark, List.map_nil]
  | cons m modifiers ih =>
    have first := proper m (.head _)
    have others : chainPieces (some '|') (mark (m.written ++ chain modifiers)) =
        m.written :: modifiers.map written :=
      ih first.isChainPart (fun _ => first.written_ne_nil) fun m inside => proper m (.tail _ inside)
    rw [chain, List.flatMap_cons, List.cons_append, ← chain,
      part.chainPieces_pipe apart (first.lone _), others, List.map_cons]

theorem splitChain?_chain (part : IsChainPart text) (filled : modifiers ≠ [])
    (proper : ∀ m ∈ modifiers, m.IsProper) :
    splitChain? (text ++ chain modifiers) = some (text, modifiers.map written) := by
  have pieces : chainPieces none (mark (text ++ chain modifiers)) = text :: modifiers.map written :=
    chainPieces_chain part (by simp) proper
  have divided : startsWithOr (mark (text ++ chain modifiers)) = false := by
    obtain ⟨m, others, rfl⟩ := List.exists_cons_of_ne_nil filled
    rw [chain, List.flatMap_cons, List.cons_append, part.mark_pipe]
    exact startsWithOr_append part.pipeless ((proper m (.head _)).lone _)
  rw [splitChain?, divided, if_neg Bool.false_ne_true, pieces]

theorem composeModifiers_chain (part : IsChainPart text) (filled : modifiers ≠ [])
    (proper : ∀ m ∈ modifiers, m.IsProper) :
    composeModifiers (text ++ chain modifiers) =
      modifiers.foldl applied (.code (trimEnd text)) := by
  simp only [composeModifiers, splitChain?_chain part filled proper]
  rw [List.foldl_map]
  exact List.foldl_ext _ _ _ fun target m inside => (proper m inside).applyModifier_written target

theorem expression_applied (target : Expr) (m : SpelledModifier) :
    Php.expression (applied target m) = called (Php.expression target) m := by
  cases given : m.arguments with
  | none =>
    have code : Php.expression (.modifier m.name target none) =
        m.name ++ ['('] ++ Php.expression target ++ [')'] := rfl
    simp only [applied, called, argumentsBehind, given, code]
    simp
  | some arguments =>
    have code : Php.expression (.modifier m.name target (some arguments)) =
        m.name ++ ['('] ++ Php.expression target ++ [','] ++ arguments ++ [')'] := rfl
    simp only [applied, called, argumentsBehind, given, code]
    simp

theorem expression_foldl_applied (target : Expr) (modifiers : List SpelledModifier) :
    Php.expression (modifiers.foldl applied target) =
      modifiers.foldl called (Php.expression target) :=
  (List.foldl_hom Php.expression fun target m => (expression_applied target m).symm).symm

end SpelledModifier

open SpelledModifier in
/-- A chain of modifiers is read as the applications that it spells, the first one
    innermost, and written as their calls.  The blanks in front of the first pipe do
    not belong to the base. -/
theorem composeModifiers_spelled {base : List Char} {modifiers : List SpelledModifier}
    (part : IsChainPart base) (blank : ∀ c ∈ blanks, isBlank c = true) (filled : modifiers ≠ [])
    (proper : ∀ m ∈ modifiers, m.IsProper) :
    composeModifiers (base ++ blanks ++ chain modifiers) =
        modifiers.foldl applied (.code (trimEnd base)) ∧
      Php.expression (composeModifiers (base ++ blanks ++ chain modifiers)) =
        modifiers.foldl called (trimEnd base) := by
  have nested : composeModifiers (base ++ blanks ++ chain modifiers) =
      modifiers.foldl applied (.code (trimEnd base)) := by
    rw [composeModifiers_chain (part.append (isChainPart_of_blank blank)) filled proper,
      trimEnd_append blank]
  refine ⟨nested, ?_⟩
  rw [nested]
  exact expression_foldl_applied (.code (trimEnd base)) modifiers

/-- Pipes and colons in strings and a `::`, with blanks around the pipes. -/
theorem composeModifiers_spelled_quoted :
    let pad : SpelledModifier :=
      ⟨" ".toList, "Str::pad".toList, some "'a|b:c', 5".toList, " ".toList⟩
    let upper : SpelledModifier := ⟨" ".toList, "upper".toList, none, []⟩
    IsChainPart "$x['|']".toList ∧ (∀ c ∈ " ".toList, isBlank c = true) ∧ [pad, upper] ≠ [] ∧
      (∀ m ∈ [pad, upper], m.IsProper) ∧
      composeModifiers "$x['|'] | Str::pad:'a|b:c', 5 | upper".toList =
        .modifier "upper".toList
          (.modifier "Str::pad".toList (.code "$x['|']".toList) (some "'a|b:c', 5".toList)) none ∧
      Php.expression (composeModifiers "$x['|'] | Str::pad:'a|b:c', 5 | upper".toList) =
        "upper(Str::pad($x['|'],'a|b:c', 5))".toList := by
  intro pad upper
  have part : IsChainPart "$x['|']".toList := by decide
  have blank : ∀ c ∈ " ".toList, isBlank c = true := by simp [isBlank]
  have filled : [pad, upper] ≠ [] := by simp
  have proper : ∀ m ∈ [pad, upper], m.IsProper := by
    have padName : IsModifierName "Str::pad".toList :=
      ⟨by decide, by simp [isQuote], by decide, by simp [isBlank], by simp [isBlank], by decide⟩
    have upperName : IsModifierName "upper".toList :=
      ⟨by decide, by simp [isQuote], by decide, by simp [isBlank], by simp [isBlank], by decide⟩
    have arguments : IsModifierArguments "'a|b:c', 5".toList :=
      ⟨by decide, by decide, by simp [isBlank]⟩
    rintro m (_ | ⟨_, _ | ⟨_, ⟨⟩⟩⟩)
    · refine ⟨blank, blank, padName, ?_⟩
      rintro _ ⟨⟩
      exact arguments
    · exact ⟨blank, List.forall_mem_nil _, upperName, by rintro _ ⟨⟩⟩
  obtain ⟨nested, code⟩ := composeModifiers_spelled part blank filled proper
  exact ⟨part, blank, filled, proper, nested, code⟩

end Stencil.Expr
