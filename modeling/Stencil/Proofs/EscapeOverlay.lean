import Stencil.Proofs.EscapePolicy
import Stencil.Proofs.SideBySide

/-! # Escaping as an overlay

Whether and how values are escaped has no influence on anything else.  The program
of a template without its escapes is the same under every policy, and escapes stand
around printed values or the parts of a printed choice, nowhere deeper.

* `Expr.unescaped` / `Program.unescaped` — without escapes;
* `Expr.IsPlain`, `Instruction.EscapesAtRoot` — where there are none;
* `resolve_cases` — all that a character set does to an expression;
* `compile_overlay` — two compilations under different policies.
-/

namespace Stencil

variable {expr : Expr}

/-! ## Escapes in expressions -/

namespace Expr

/-- Nothing in the expression is escaped. -/
def IsPlain : Expr → Prop
  | .code _ | .call _ => True
  | .modifier _ target _ => target.IsPlain
  | .escape _ _ => False
  | .ternary condition ifTrue ifFalse => condition.IsPlain ∧ ifTrue.IsPlain ∧ ifFalse.IsPlain
  | .callWith _ arguments => arguments.IsPlain

/-- The expression with every escape replaced by what it escapes. -/
def unescaped : Expr → Expr
  | .code text => .code text
  | .modifier name target arguments => .modifier name target.unescaped arguments
  | .escape inner _ => inner.unescaped
  | .ternary condition ifTrue ifFalse =>
    .ternary condition.unescaped ifTrue.unescaped ifFalse.unescaped
  | .call function => .call function
  | .callWith function arguments => .callWith function arguments.unescaped

theorem IsPlain.unescaped (plain : expr.IsPlain) : expr.unescaped = expr := by
  induction expr with
  | code | call => rfl
  | modifier name target arguments ih => rw [Expr.unescaped, ih plain]
  | escape => cases plain
  | ternary condition ifTrue ifFalse first second third =>
    rw [Expr.unescaped, first plain.1, second plain.2.1, third plain.2.2]
  | callWith function arguments ih => rw [Expr.unescaped, ih plain]

/-- The expression is escaped as a whole or not at all. -/
def EscapesWhole : Expr → Prop
  | .escape inner _ => inner.IsPlain
  | expr => expr.IsPlain

/-- Escapes stand around the expression or around the parts of a choice that it is. -/
def EscapesAtRoot : Expr → Prop
  | .ternary condition ifTrue ifFalse =>
    condition.EscapesWhole ∧ ifTrue.EscapesWhole ∧ ifFalse.EscapesWhole
  | expr => expr.EscapesWhole

theorem IsPlain.escapesWhole (plain : expr.IsPlain) : expr.EscapesWhole := by
  cases expr with
  | escape => cases plain
  | _ => exact plain

theorem EscapesWhole.escapesAtRoot (whole : expr.EscapesWhole) : expr.EscapesAtRoot := by
  cases expr with
  | ternary => exact ⟨whole.1.escapesWhole, whole.2.1.escapesWhole, whole.2.2.escapesWhole⟩
  | _ => exact whole

theorem isPlain_composeModifiers (text : List Char) : (composeModifiers text).IsPlain := by
  have applied (modifiers : List (List Char)) {target : Expr} (plain : target.IsPlain) :
      (modifiers.foldl applyModifier target).IsPlain := by
    induction modifiers generalizing target with
    | nil => exact plain
    | cons written modifiers ih => exact @ih (applyModifier target written) plain
  unfold composeModifiers
  split
  · exact trivial
  · exact applied _ trivial

theorem isPlain_resolve (text : List Char) (level : Nat) : (resolve text level none).expr.IsPlain := by
  unfold resolve
  dsimp only
  split
  · exact isPlain_composeModifiers _
  · exact trivial

/-- A character set puts an escape around a value that is printed, and changes nothing else. -/
theorem resolve_cases (text : List Char) (level : Nat) (charset? : Option (List Char)) :
    (resolve text level charset?).expr = (resolve text level none).expr ∨
      (resolve text level charset?).isOutput = true ∧ ∃ charset,
        (resolve text level charset?).expr = .escape (resolve text level none).expr charset := by
  cases charset? with
  | none => exact .inl rfl
  | some charset =>
    unfold resolve
    dsimp only
    split
    · dsimp only [Resolved.isOutput]
      split
      · exact .inl rfl
      · rename_i printed
        exact .inr ⟨by simpa using printed, charset, rfl⟩
    · exact .inl rfl

variable {text : List Char} {level : Nat} {charset? : Option (List Char)}

theorem unescaped_resolve :
    (resolve text level charset?).expr.unescaped = (resolve text level none).expr := by
  have plain := (isPlain_resolve text level).unescaped
  rcases resolve_cases text level charset? with same | ⟨-, charset, escaped⟩
  · rw [same, plain]
  · rw [escaped, Expr.unescaped, plain]

theorem escapesWhole_resolve : (resolve text level charset?).expr.EscapesWhole := by
  rcases resolve_cases text level charset? with same | ⟨-, charset, escaped⟩
  · rw [same]
    exact (isPlain_resolve text level).escapesWhole
  · rw [escaped]
    exact isPlain_resolve text level

/-- A value that is not printed is not escaped. -/
theorem isPlain_of_not_isOutput (silent : (resolve text level charset?).isOutput = false) :
    (resolve text level charset?).expr.IsPlain := by
  rcases resolve_cases text level charset? with same | ⟨printed, -⟩
  · rw [same]
    exact isPlain_resolve text level
  · rw [silent] at printed
    cases printed

end Expr

/-! ## Escapes in programs -/

namespace Program

open Stencil.Expr (resolve isPlain_resolve isPlain_composeModifiers unescaped_resolve
  escapesWhole_resolve isPlain_of_not_isOutput)
open Stencil.Source (LineIndex Span)
open Stencil.Tag
open Stencil.Template

/-- What a loop goes over, without escapes. -/
def LoopSource.unescaped : LoopSource → LoopSource
  | .direct code => .direct code
  | .computed expr => .computed expr.unescaped

/-- The template that is included, without escapes. -/
def IncludeTarget.unescaped : IncludeTarget → IncludeTarget
  | .fixed path => .fixed path
  | .dynamic folder path => .dynamic folder path.unescaped

/-- The instruction with every escape replaced by what it escapes. -/
def Instruction.unescaped : Instruction → Instruction
  | .output expr => .output expr.unescaped
  | .statement expr => .statement expr.unescaped
  | .loopOpen header => .loopOpen { header with source := header.source.unescaped }
  | .ifOpen condition => .ifOpen condition.unescaped
  | .elseIf condition => .elseIf condition.unescaped
  | .inclusion target => .inclusion target.unescaped
  | instruction => instruction

/-- Only what is printed is escaped, and that at its root. -/
def Instruction.EscapesAtRoot : Instruction → Prop
  | .output expr => expr.EscapesAtRoot
  | .statement expr | .ifOpen expr | .elseIf expr => expr.IsPlain
  | .loopOpen header => ∀ expr, header.source = .computed expr → expr.IsPlain
  | .inclusion target => ∀ folder path, target = .dynamic folder path → path.IsPlain
  | _ => True

/-- Instructions that are the same without escapes, which stand at roots only. -/
def Overlaid (instruction other : Instruction) : Prop :=
  instruction.unescaped = other.unescaped ∧ instruction.EscapesAtRoot

/-- The compiler under another escape policy. -/
def Compiler.withEscaping (compiler : Compiler) (autoEscape : Bool) (charset : List Char) :
    Compiler :=
  { compiler with options := { compiler.options with autoEscape, charset } }

theorem readAlike_withEscaping (compiler : Compiler) (autoEscape : Bool) (charset : List Char) :
    ReadAlike compiler.options (compiler.withEscaping autoEscape charset).options :=
  ⟨rfl, rfl, rfl⟩

variable {compiler : Compiler} {autoEscape : Bool} {charset : List Char} {origin : Origin}
  {lines : LineIndex} {state : State} {span : Span} {found : TagMatch}

theorem escapesAtRoot_loopOpen (level : Nat) :
    (Instruction.loopOpen (loopHeader found level)).EscapesAtRoot := by
  intro expr computed
  have plain := isPlain_resolve (found.argument 1) (level - 1)
  simp only [loopHeader] at computed
  split at computed
  · rename_i code resolved
    split at computed
    · cases computed
      exact trivial
    · split at computed <;> cases computed
  · cases computed
    exact plain

theorem escapesAtRoot_inclusion (path : List Char) (level : Nat) :
    (Instruction.inclusion (compiler.includeTarget origin path level)).EscapesAtRoot := by
  intro folder target dynamic
  unfold Compiler.includeTarget at dynamic
  dsimp only at dynamic
  split at dynamic
  · cases dynamic
    exact isPlain_resolve path level
  · cases dynamic

/-- A tag that writes the same under both policies. -/
theorem overlaid_of_same {next : State} {written : List Instruction} {events : List Event}
    (roots : ∀ instruction ∈ written, instruction.EscapesAtRoot) :
    Alike (· = ·) (Abreast (List.Forall₂ Overlaid)) (.ok ⟨next, written, events⟩)
      (.ok ⟨next, written, events⟩) :=
  .ok ⟨rfl, List.forall₂_same.2 fun instruction listed => ⟨rfl, roots instruction listed⟩⟩

theorem ordinaryTag_overlaid :
    Alike (· = ·) (Abreast (List.Forall₂ Overlaid))
      (compiler.ordinaryTag origin lines state span found)
      ((compiler.withEscaping autoEscape charset).ordinaryTag origin lines state span found) := by
  unfold Compiler.ordinaryTag
  cases kind : found.kind with
  | ignoreOpen | noParseOpen | autoescapeOpen => exact overlaid_of_same (by simp)
  | loopBreak | loopContinue | otherwise | rawCodeClose | ignoreClose | noParseClose =>
    exact overlaid_of_same (by simp [Instruction.EscapesAtRoot])
  | rawCodeOpen =>
    cases allowed : compiler.options.allowRawCode <;>
    · simp only [Compiler.withEscaping, allowed]
      exact overlaid_of_same (by simp [Instruction.EscapesAtRoot])
  | inclusion => exact overlaid_of_same (by simpa using escapesAtRoot_inclusion _ _)
  | loopOpen => exact overlaid_of_same (by simpa using escapesAtRoot_loopOpen _)
  | ifOpen | elseIf =>
    exact overlaid_of_same (by simpa [Instruction.EscapesAtRoot] using isPlain_resolve _ _)
  | loopClose =>
    cases state.loops with
    | nil => exact .error rfl
    | cons => exact overlaid_of_same (by simp [Instruction.EscapesAtRoot])
  | ifClose =>
    cases state.conditionals with
    | nil => exact .error rfl
    | cons => exact overlaid_of_same (by simp [Instruction.EscapesAtRoot])
  | autoescapeClose => cases state.escapes <;> exact overlaid_of_same (by simp)
  | functionCall =>
    cases found.argument? 2 with
    | none => exact overlaid_of_same (by simp [Instruction.EscapesAtRoot, Expr.EscapesAtRoot,
        Expr.EscapesWhole, Expr.IsPlain])
    | some arguments =>
      refine overlaid_of_same ?_
      simpa [Instruction.EscapesAtRoot, Expr.EscapesAtRoot, Expr.EscapesWhole, Expr.IsPlain] using
        isPlain_resolve _ _
  | constantTag =>
    refine overlaid_of_same ?_
    simpa [Instruction.EscapesAtRoot] using
      (isPlain_composeModifiers _).escapesWhole.escapesAtRoot
  | ternary =>
    refine .ok ⟨rfl, .cons ⟨?_, escapesWhole_resolve, escapesWhole_resolve, escapesWhole_resolve⟩ .nil⟩
    simp only [Instruction.unescaped, Expr.unescaped, unescaped_resolve]
  | variableTag =>
    refine .ok ⟨rfl, .cons ?_ .nil⟩
    -- Both policies print the value, or neither does.
    simp only [isOutput_resolve _ _ (Compiler.charset? _ _)]
    cases printed : (resolve (withoutBraces found.whole) state.loops.length none).isOutput with
    | true =>
      refine ⟨?_, escapesWhole_resolve.escapesAtRoot⟩
      simp only [if_true, Instruction.unescaped, unescaped_resolve]
    | false =>
      refine ⟨?_, isPlain_of_not_isOutput ((isOutput_resolve _ _ _).trans printed)⟩
      simp only [Bool.false_eq_true, if_false, Instruction.unescaped, unescaped_resolve]

theorem overlaid_of_bare (written : List Instruction)
    (bare : ∀ instruction ∈ written, IsBare instruction) : List.Forall₂ Overlaid written written := by
  refine List.forall₂_same.2 fun instruction listed => ⟨rfl, ?_⟩
  cases bare instruction listed <;> exact trivial

theorem overlaid_customTags (text : List Char) :
    List.Forall₂ Overlaid (compiler.customTags text)
      ((compiler.withEscaping autoEscape charset).customTags text) := by
  refine List.forall₂_same.2 fun instruction listed => ⟨rfl, ?_⟩
  unfold Compiler.customTags at listed
  split at listed
  · rw [List.mem_singleton.1 listed]
    exact trivial
  · obtain ⟨_, -, rfl⟩ := List.mem_map.1 listed
    exact trivial

theorem step_overlaid (lines : LineIndex) (state : State) (token : Token) :
    Alike (· = ·) (Abreast (List.Forall₂ Overlaid)) (compiler.step origin lines state token)
      ((compiler.withEscaping autoEscape charset).step origin lines state token) :=
  step_alike (fun _ _ => List.Forall₂ Overlaid) (readAlike_withEscaping compiler autoEscape charset)
    (fun _ => overlaid_of_bare) (fun _ => overlaid_customTags token.text)
    fun _ _ => ordinaryTag_overlaid

/-! ## Whole compilations -/

/-- Under any two policies a template is rejected with the same error, or it is compiled to
    programs that are the same without escapes.  These stand around what is printed or around
    the parts of a printed choice. -/
theorem compile_overlay (compiler : Compiler) (autoEscape : Bool) (charset source : List Char)
    (origin : Origin) :
    Alike (· = ·)
        (fun program other : Program =>
          program.instructions.map Instruction.unescaped =
            other.instructions.map Instruction.unescaped)
        (compiler.compile source origin).result
        ((compiler.withEscaping autoEscape charset).compile source origin).result ∧
      ∀ program, (compiler.compile source origin).result = .ok program →
        ∀ instruction ∈ program.instructions, instruction.EscapesAtRoot := by
  have alike := compile_alike (fun _ _ => List.Forall₂ Overlaid)
    (readAlike_withEscaping compiler autoEscape charset) source (fun _ _ => rfl)
    (@step_overlaid compiler autoEscape charset origin)
  have overlaid := alike.imp fun _ _ => Paired.forall₂
  constructor
  · refine overlaid.imp fun program other pairs => ?_
    rw [← List.forall₂_eq_eq_eq, List.forall₂_map_left_iff, List.forall₂_map_right_iff]
    exact pairs.imp fun _ _ same => same.1
  · intro program compiled instruction listed
    rw [compiled] at overlaid
    generalize ((compiler.withEscaping autoEscape charset).compile source origin).result = other
      at overlaid
    cases overlaid with
    | ok pairs =>
      obtain ⟨_, same⟩ := List.forall₂_iff_get.1 pairs
      obtain ⟨index, inside, rfl⟩ := List.mem_iff_getElem.1 listed
      exact (same index inside (by omega)).2

/-- An assignment, a chain of modifiers and a choice, escaped and without escaping. -/
theorem compile_overlay_choice :
    let compiler : Compiler := ⟨{ autoEscape := true }, .empty⟩
    let plain := compiler.withEscaping false []
    let source := "\x7b$x=$b\x7d\x7b$c|f\x7d\x7b$d?$e:\"n\"\x7d".toList
    let escaped (expr : Expr) : Expr := .escape expr "UTF-8".toList
    let chain : Expr := .modifier ['f'] (.code "$c".toList) none
    let program : Program :=
      ⟨[.statement (.code "$x=$b".toList), .output (escaped chain),
        .output (.ternary (escaped (.code "$d".toList)) (escaped (.code "$e".toList))
          (.code "\"n\"".toList))]⟩
    let other : Program :=
      ⟨[.statement (.code "$x=$b".toList), .output chain,
        .output (.ternary (.code "$d".toList) (.code "$e".toList) (.code "\"n\"".toList))]⟩
    (compiler.compile source (.file [] [])).result = .ok program ∧
    (plain.compile source (.file [] [])).result = .ok other ∧
    program.instructions.map Instruction.unescaped = other.instructions.map Instruction.unescaped ∧
    ∀ instruction ∈ program.instructions, instruction.EscapesAtRoot := by
  intro compiler plain source escaped chain program other
  have compiled : (compiler.compile source (.file [] [])).result = .ok program := by
    decide +kernel
  have compiledPlain : (plain.compile source (.file [] [])).result = .ok other := by
    decide +kernel
  obtain ⟨alike, roots⟩ := compile_overlay compiler false [] source (.file [] [])
  rw [compiled, compiledPlain] at alike
  cases alike with
  | ok same => exact ⟨compiled, compiledPlain, same, roots program compiled⟩

end Program

end Stencil
