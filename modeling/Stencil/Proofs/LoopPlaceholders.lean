import Stencil.Proofs.LoopReferences
import Stencil.Proofs.References

/-! # Placeholders in compiled templates

The texts of a tag are resolved at the depth of the loops that are open around it;
the collection of a loop is still outside of it.

* `TagMatch.expressions` — the texts of a tag that are expressions;
* `Holds` — the expressions that an instruction is made of;
* `ordinaryTag_holds` — a tag is made of what its texts are resolved to;
* `compile_placeholders` — the placeholders that are left in a program.
-/

namespace Stencil.Tag

open Stencil.Program (withoutBraces)

/-- The texts of a tag that are resolved as expressions. -/
def TagMatch.expressions (found : TagMatch) : List (List Char) :=
  match found.kind with
  | .variableTag => [withoutBraces found.whole]
  | .ifOpen | .elseIf | .loopOpen => [found.argument 1]
  -- A path without a variable is known when the template is compiled.
  | .inclusion => if (found.argument 1).contains '$' then [found.argument 1] else []
  | .ternary => [found.argument 1, found.argument 2, found.argument 3]
  | .functionCall => ((found.argument? 2).map fun arguments => arguments.tail.dropLast).toList
  | _ => []

end Stencil.Tag

namespace Stencil.Program

open Stencil.Expr (resolve renameBindings Move HasPlaceholder CutsPlaceholder IsPlacedAt
  isPlacedAt_resolve)
open Stencil.Source (LineIndex Span)
open Stencil.Tag
open Stencil.Template
open Stencil.Text

/-- The expressions that an instruction is made of, as they were resolved: the
    collection of a loop may still lack the `$` that is put in front of a bare name. -/
inductive Holds : Instruction → List Expr → Prop where
  | output (expr : Expr) : Holds (.output expr) [expr]
  | statement (expr : Expr) : Holds (.statement expr) [expr]
  | ternary (condition ifTrue ifFalse : Expr) :
      Holds (.output (.ternary condition ifTrue ifFalse)) [condition, ifTrue, ifFalse]
  | call (function : List Char) (arguments : Expr) :
      Holds (.output (.callWith function arguments)) [arguments]
  | ifOpen (condition : Expr) : Holds (.ifOpen condition) [condition]
  | elseIf (condition : Expr) : Holds (.elseIf condition) [condition]
  | inclusion (folder : List Char) (path : Expr) :
      Holds (.inclusion (.dynamic folder path)) [path]
  | computed {header : Loop} {expr : Expr} (source : header.source = .computed expr) :
      Holds (.loopOpen header) [expr]
  | direct {header : Loop} {code : List Char} (source : header.source = .direct code)
      (sigil : '$' ∈ code) : Holds (.loopOpen header) [.code code]
  | bare {header : Loop} {code : List Char} (source : header.source = .direct ('$' :: code))
      (plain : '$' ∉ code) : Holds (.loopOpen header) [.code code]

theorem holds_loopHeader (found : TagMatch) (level : Nat) :
    Holds (.loopOpen (loopHeader found (level + 1))) [(resolve (found.argument 1) level none).expr] := by
  cases expr : (resolve (found.argument 1) level none).expr with
  | code code =>
    by_cases computed : code.contains '(' = true
    · exact .computed (by simp only [loopHeader, Nat.add_sub_cancel, expr, if_pos computed])
    by_cases sigil : code.contains '$' = true
    · refine .direct ?_ (List.contains_iff_mem.1 sigil)
      simp only [loopHeader, Nat.add_sub_cancel, expr, if_neg computed, if_pos sigil]
    · refine .bare ?_ fun inside => sigil (List.contains_iff_mem.2 inside)
      simp only [loopHeader, Nat.add_sub_cancel, expr, if_neg computed, if_neg sigil]
  | _ => exact .computed (by simp only [loopHeader, Nat.add_sub_cancel, expr])

/-- A tag with expressions leads to one instruction, which is made of them. -/
theorem ordinaryTag_holds {compiler : Compiler} {origin : Origin} {lines : LineIndex} {state : State}
    {span : Span} {found : TagMatch} {effect : Effect}
    (meant : compiler.ordinaryTag origin lines state span found = .ok effect)
    (expressions : found.expressions ≠ []) :
    ∃ instruction exprs, effect.instructions = [instruction] ∧ Holds instruction exprs ∧
      List.Forall₂ (IsPlacedAt state.loops.length) found.expressions exprs := by
  have placed (text : List Char) (charset? : Option (List Char)) :
      List.Forall₂ (IsPlacedAt state.loops.length) [text]
        [(resolve text state.loops.length charset?).expr] :=
    .cons (isPlacedAt_resolve ..) .nil
  unfold Compiler.ordinaryTag at meant
  unfold TagMatch.expressions at expressions ⊢
  cases kind : found.kind with
  | variableTag =>
    simp only [kind, Except.ok.injEq] at meant
    subst meant
    by_cases printed : (resolve (withoutBraces found.whole) state.loops.length
        (compiler.charset? state)).isOutput = true
    · rw [if_pos printed]
      exact ⟨_, _, rfl, .output _, placed ..⟩
    · rw [if_neg printed]
      exact ⟨_, _, rfl, .statement _, placed ..⟩
  | loopOpen =>
    simp only [kind, Except.ok.injEq] at meant
    subst meant
    exact ⟨_, _, rfl, holds_loopHeader found _, placed ..⟩
  | ifOpen =>
    simp only [kind, Except.ok.injEq] at meant
    subst meant
    exact ⟨_, _, rfl, .ifOpen _, placed ..⟩
  | elseIf =>
    simp only [kind, Except.ok.injEq] at meant
    subst meant
    exact ⟨_, _, rfl, .elseIf _, placed ..⟩
  | ternary =>
    simp only [kind, Except.ok.injEq] at meant
    subst meant
    refine ⟨_, _, rfl, .ternary .., ?_⟩
    exact .cons (isPlacedAt_resolve ..) (.cons (isPlacedAt_resolve ..) (placed ..))
  | functionCall =>
    simp only [kind] at meant expressions ⊢
    cases arguments : found.argument? 2 with
    | none => simp [arguments] at expressions
    | some text =>
      simp only [arguments, Except.ok.injEq] at meant
      subst meant
      exact ⟨_, _, rfl, .call .., placed ..⟩
  | inclusion =>
    simp only [kind, Except.ok.injEq] at meant expressions ⊢
    subst meant
    by_cases sigil : (found.argument 1).contains '$' = true
    · simp only [Compiler.includeTarget, if_pos sigil]
      exact ⟨_, _, rfl, .inclusion .., placed ..⟩
    · exact absurd (if_neg sigil) expressions
  | _ => simp [kind] at expressions

/-- An instruction for a tag is made of the expressions in its text, each resolved at
    the depth of the loops that are open around the tag.  Placeholders have the depth,
    outside loops they are as they were, and everything else that a `$` stands in front
    of is kept.  In a loop a placeholder is left where, and only where, a dotted key
    that goes on with letters outside ASCII is cut down to one. -/
theorem compile_placeholders (compiler : Compiler) (source : List Char) (origin : Origin)
    (program : Program) (compiled : (compiler.compile source origin).result = .ok program)
    (before after : List Token) (token : Token) (found : TagMatch)
    (split : compiler.tokens source = before ++ token :: after)
    (active : IsActive compiler.options (regionAt compiler.options .markup before) token)
    (classified : classify? compiler.options.caseInsensitiveTags token.text = some found)
    (expressions : found.expressions ≠ []) :
    ∃ state written instruction exprs later,
      compiler.reaches source origin before = .ok (state, written) ∧
      openers .loop (blockTags compiler.options before) =
        closers .loop (blockTags compiler.options before) + state.loops.length ∧
      program.instructions = written ++ instruction :: later ∧
      Holds instruction exprs ∧
      List.Forall₂ (IsPlacedAt state.loops.length) found.expressions exprs := by
  obtain ⟨state, written, effect, later, reached, meant, whole⟩ :=
    exists_effect_of_compile compiled split active classified
  obtain ⟨instruction, exprs, single, holds, placed⟩ := ordinaryTag_holds meant expressions
  rw [single] at whole
  exact ⟨state, written, instruction, exprs, later, reached, openers_of_reaches reached, whole,
    holds, placed⟩

/-- In a loop the placeholder of `$xs` is left alone and the key `$keyé` of `$a` loses its
    last letter, so that it is a placeholder without a level. -/
theorem compile_placeholders_cut :
    let compiler : Compiler := ⟨{}, .empty⟩
    let source := "\x7bloop=\"$xs\"\x7d\x7b$a.$keyé + $value\x7d\x7b/loop\x7d".toList
    let text := "$a.$keyé + $value".toList
    let code := "$a[\"$key\"]é + $value1".toList
    let program : Program :=
      ⟨[.loopOpen ⟨1, .direct "$xs".toList, "$key1".toList, "$value1".toList⟩,
        .output (.code code), .loopClose]⟩
    let opener : Token := ⟨.candidate, "\x7bloop=\"$xs\"\x7d".toList, ⟨0, 12⟩⟩
    let token : Token := ⟨.candidate, '{' :: (text ++ ['}']), ⟨12, 20⟩⟩
    let closer : Token := ⟨.candidate, "\x7b/loop\x7d".toList, ⟨32, 7⟩⟩
    let found : TagMatch := ⟨.variableTag, [], [.fixed token.text]⟩
    (compiler.compile source (.file [] [])).result = .ok program ∧
    compiler.tokens source = [opener] ++ token :: [closer] ∧
    IsActive compiler.options (regionAt compiler.options .markup [opener]) token ∧
    classify? compiler.options.caseInsensitiveTags token.text = some found ∧
    found.expressions = [text] ∧
    HasPlaceholder code ∧ CutsPlaceholder ⟨false, [], renameBindings 1 text⟩ ∧
    ∃ state written instruction exprs later,
      compiler.reaches source (.file [] []) [opener] = .ok (state, written) ∧
      openers .loop (blockTags compiler.options [opener]) =
        closers .loop (blockTags compiler.options [opener]) + state.loops.length ∧
      program.instructions = written ++ instruction :: later ∧
      Holds instruction exprs ∧
      List.Forall₂ (IsPlacedAt state.loops.length) found.expressions exprs := by
  intro compiler source text code program opener token closer found
  have compiled : (compiler.compile source (.file [] [])).result = .ok program := by
    decide +kernel
  have split : compiler.tokens source = [opener] ++ token :: [closer] := by
    decide +kernel
  have active : IsActive compiler.options (regionAt compiler.options .markup [opener]) token := by
    decide +kernel
  have classified : classify? compiler.options.caseInsensitiveTags token.text = some found := by
    decide +kernel
  have expressions : found.expressions = [text] := by decide
  have has : HasPlaceholder code :=
    ⟨"key".toList, by decide, "$a[\"".toList, "\"]é + $value1".toList, rfl, by rintro c ⟨⟩; rfl⟩
  have named : Move ⟨false, [], renameBindings 1 text⟩ "$a".toList
      ⟨true, [], ".$keyé + $value1".toList⟩ :=
    @Move.name _ _ "a".toList _ (by decide) (by rintro c ⟨⟩; rfl)
  have cuts : CutsPlaceholder ⟨true, [], ".$keyé + $value1".toList⟩ :=
    @CutsPlaceholder.here _ "key".toList _ (by decide) ⟨'é', rfl, by decide, by decide⟩
  exact ⟨compiled, split, active, classified, expressions, has, .later named cuts,
    compile_placeholders _ _ _ _ compiled _ _ _ _ split active classified (by simp [expressions])⟩

end Stencil.Program
