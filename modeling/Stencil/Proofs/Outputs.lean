import Stencil.Proofs.Regions

/-! # What is printed

Only the tags of calls, ternaries, variables and constants print values.  Every
value that a program prints goes back to one active tag of the template.

* `Printed` — the values that a tag prints;
* `TagEffect` / `ordinaryTag_effect` — all that an accepted tag can do;
* `printed_of_step` — one token;
* `exists_tag_of_output` — a value that a run prints and the tag it comes from.
-/

namespace Stencil.Program

open Stencil.Expr (resolve composeModifiers)
open Stencil.Source (LineIndex)
open Stencil.Tag
open Stencil.Template
open Stencil.Text

/-- The value that a tag prints in a state. -/
inductive Printed (compiler : Compiler) (state : State) (found : TagMatch) : Expr → Prop where
  | call (kind : found.kind = .functionCall) (bare : found.argument? 2 = none) :
      Printed compiler state found (.call (replaceChar '/' ['\\'] (found.argument 1)))
  | callWith {arguments : List Char} (kind : found.kind = .functionCall)
      (given : found.argument? 2 = some arguments) :
      Printed compiler state found (.callWith (replaceChar '/' ['\\'] (found.argument 1))
        (resolve arguments.tail.dropLast state.loops.length none).expr)
  | ternary {parts : Nat → Expr} (kind : found.kind = .ternary)
      (resolved : ∀ index, parts index = (resolve (found.argument index) state.loops.length
        (compiler.charset? state)).expr) :
      Printed compiler state found (.ternary (parts 1) (parts 2) (parts 3))
  | variableTag (kind : found.kind = .variableTag)
      (isOutput : (resolve (withoutBraces found.whole) state.loops.length
        (compiler.charset? state)).isOutput = true) :
      Printed compiler state found
        (resolve (withoutBraces found.whole) state.loops.length (compiler.charset? state)).expr
  | constantTag (kind : found.kind = .constantTag) :
      Printed compiler state found (composeModifiers (constantText found.whole))

variable {compiler : Compiler} {origin : Origin} {lines : LineIndex} {state final : State}
  {token : Token} {tokens : List Token} {found : TagMatch} {effect : Effect} {expr : Expr}
  {instructions front back : List Instruction}

/-! ## Tags -/

/-- The state and the instructions that an accepted tag leads to. -/
inductive TagEffect (compiler : Compiler) (origin : Origin) (state : State) (span : Source.Span)
    (found : TagMatch) : State → List Instruction → Prop where
  | ignoreOpen (kind : found.kind = .ignoreOpen) :
      TagEffect compiler origin state span found { state with region := .ignored } []
  | noParseOpen (kind : found.kind = .noParseOpen) :
      TagEffect compiler origin state span found { state with region := .noParse } []
  | rawCodeOpen (kind : found.kind = .rawCodeOpen) :
      TagEffect compiler origin state span found { state with region := .rawCode } [.rawCodeOpen]
  | rawCodeDropped (kind : found.kind = .rawCodeOpen) :
      TagEffect compiler origin state span found { state with region := .ignored }
        [.notice rawCodeNotice]
  | loopOpen (kind : found.kind = .loopOpen) :
      TagEffect compiler origin state span found { state with loops := span :: state.loops }
        [.loopOpen (loopHeader found (state.loops.length + 1))]
  | loopClose {loops : List Source.Span} (kind : found.kind = .loopClose) :
      TagEffect compiler origin state span found { state with loops } [.loopClose]
  | ifOpen {condition : Expr} (kind : found.kind = .ifOpen) :
      TagEffect compiler origin state span found
        { state with conditionals := span :: state.conditionals } [.ifOpen condition]
  | ifClose {conditionals : List Source.Span} (kind : found.kind = .ifClose) :
      TagEffect compiler origin state span found { state with conditionals } [.ifClose]
  | elseIf {condition : Expr} (kind : found.kind = .elseIf) :
      TagEffect compiler origin state span found state [.elseIf condition]
  | otherwise (kind : found.kind = .otherwise) :
      TagEffect compiler origin state span found state [.otherwise]
  | autoescapeOpen (kind : found.kind = .autoescapeOpen) :
      TagEffect compiler origin state span found
        { state with escapes := escapes (found.argument 1) :: state.escapes } []
  | autoescapeClose (kind : found.kind = .autoescapeClose) :
      TagEffect compiler origin state span found { state with escapes := state.escapes.tail } []
  | loopBreak (kind : found.kind = .loopBreak) :
      TagEffect compiler origin state span found state [.loopBreak]
  | loopContinue (kind : found.kind = .loopContinue) :
      TagEffect compiler origin state span found state [.loopContinue]
  | inclusion {target : IncludeTarget} (kind : found.kind = .inclusion) :
      TagEffect compiler origin state span found state [.inclusion target]
  | output {expr : Expr} (printed : Printed compiler state found expr) :
      TagEffect compiler origin state span found state [.output expr]
  | statement {expr : Expr} (kind : found.kind = .variableTag) :
      TagEffect compiler origin state span found state [.statement expr]
  /-- The end of a region, which is no ordinary tag. -/
  | regionEnd (kind : found.kind ∈ [.rawCodeClose, .ignoreClose, .noParseClose]) :
      TagEffect compiler origin state span found state [.text found.whole]

theorem ordinaryTag_effect {span : Source.Span}
    (tagged : compiler.ordinaryTag origin lines state span found = .ok effect) :
    TagEffect compiler origin state span found effect.state effect.instructions := by
  unfold Compiler.ordinaryTag at tagged
  cases kind : found.kind <;> simp only [kind] at tagged
  case ignoreOpen => cases tagged; exact .ignoreOpen kind
  case noParseOpen => cases tagged; exact .noParseOpen kind
  case rawCodeOpen =>
    split at tagged
    · cases tagged; exact .rawCodeOpen kind
    · cases tagged; exact .rawCodeDropped kind
  case loopOpen => cases tagged; exact .loopOpen kind
  case loopClose =>
    split at tagged
    · cases tagged
    · cases tagged; exact .loopClose kind
  case ifOpen => cases tagged; exact .ifOpen kind
  case ifClose =>
    split at tagged
    · cases tagged
    · cases tagged; exact .ifClose kind
  case elseIf => cases tagged; exact .elseIf kind
  case otherwise => cases tagged; exact .otherwise kind
  case autoescapeOpen => cases tagged; exact .autoescapeOpen kind
  case autoescapeClose =>
    obtain ⟨_, _, blocks, _⟩ := state
    cases blocks <;>
      · cases tagged
        exact .autoescapeClose kind
  case loopBreak => cases tagged; exact .loopBreak kind
  case loopContinue => cases tagged; exact .loopContinue kind
  case inclusion => cases tagged; exact .inclusion kind
  case functionCall =>
    split at tagged
    · rename_i given
      cases tagged; exact .output (.callWith kind given)
    · rename_i bare
      cases tagged; exact .output (.call kind bare)
  case ternary =>
    cases tagged
    let part (index : Nat) : Expr :=
      (resolve (found.argument index) state.loops.length (compiler.charset? state)).expr
    exact .output (@Printed.ternary _ _ _ part kind fun index => rfl)
  case variableTag =>
    cases tagged
    dsimp only
    split
    · rename_i isOutput
      exact .output (.variableTag kind isOutput)
    · exact .statement kind
  case constantTag => cases tagged; exact .output (.constantTag kind)
  case rawCodeClose | ignoreClose | noParseClose =>
    cases tagged
    exact .regionEnd (by rw [kind]; decide)

/-- A tag that prints a value does nothing else. -/
theorem printed_of_ordinaryTag {span : Source.Span}
    (tagged : compiler.ordinaryTag origin lines state span found = .ok effect)
    (prints : .output expr ∈ effect.instructions) :
    effect.instructions = [.output expr] ∧ Printed compiler state found expr := by
  have effects := ordinaryTag_effect tagged
  generalize effect.state = next, effect.instructions = written at effects prints
  cases effects with
  | output printed =>
    obtain rfl := Instruction.output.inj (List.mem_singleton.1 prints)
    exact ⟨rfl, printed⟩
  | _ => simp at prints

theorem ordinaryTag_of_printed {span : Source.Span}
    (printed : Printed compiler state found expr) :
    compiler.ordinaryTag origin lines state span found =
      .ok { state, instructions := [.output expr] } := by
  cases printed with
  | call kind bare => simp only [Compiler.ordinaryTag, kind, bare]
  | callWith kind given => simp only [Compiler.ordinaryTag, kind, given]
  | ternary kind resolved => simp only [Compiler.ordinaryTag, kind, resolved]
  | variableTag kind isOutput => simp only [Compiler.ordinaryTag, kind, isOutput, if_true]
  | constantTag kind => simp only [Compiler.ordinaryTag, kind]

/-! ## Steps and runs -/

theorem printed_of_step (stepped : compiler.step origin lines state token = .ok effect)
    (prints : .output expr ∈ effect.instructions) :
    IsActive compiler.options state.region token ∧
      ∃ found, classify? compiler.options.caseInsensitiveTags token.text = some found ∧
        effect.instructions = [.output expr] ∧ Printed compiler state found expr := by
  have outcome := step_outcome compiler origin lines state token
  rw [stepped] at outcome
  cases outcome with
  | comment => simp at prints
  | literal =>
    dsimp only at prints
    split at prints <;> simp at prints
  | settled kind settled =>
    have written := settled_cases settled
    dsimp only at prints
    cases written <;> simp at prints
  | @tag found _ kind left classified =>
    have active := (isActive_iff kind).2 left
    rw [step_of_active active classified] at stepped
    obtain ⟨single, printed⟩ := printed_of_ordinaryTag stepped prints
    exact ⟨active, found, classified, single, printed⟩
  | custom kind left unclassified =>
    simp only [Compiler.customTags] at prints
    split at prints <;> simp at prints

/-- A value in what a run writes was printed by one of the tags on its way. -/
theorem exists_tag_of_output
    (ran : (compiler.run origin lines state tokens).result = .ok (final, instructions))
    (split : instructions = front ++ .output expr :: back) :
    ∃ before token after middle found, tokens = before ++ token :: after ∧
      (compiler.run origin lines state before).result = .ok (middle, front) ∧
      IsActive compiler.options middle.region token ∧
      classify? compiler.options.caseInsensitiveTags token.text = some found ∧
      Printed compiler middle found expr := by
  -- The token prints the value, and nothing else.
  obtain ⟨before, token, after, middle, effect, whole, reached, stepped, prints⟩ :=
    exists_sole_step_of_split ran split fun stepped prints => (printed_of_step stepped prints).2.elim
      fun _ printed => printed.2.1
  obtain ⟨active, found, classified, -, printed⟩ := printed_of_step stepped prints
  exact ⟨before, token, after, middle, found, whole, reached, active, classified, printed⟩

end Stencil.Program
