import Mathlib.Data.List.Forall2
import Stencil.Proofs.Regions

/-! # Compilations side by side

Two compilers that read tokens alike are in the same state from token to token.
What they make of a whole template can then be compared token by token, and only
their tags and their custom tags have to be looked at.

* `Alike` — results that fail alike or succeed alike;
* `ReadAlike` — options under which templates are cut and read alike;
* `Paired` — what two compilers write for the same tokens;
* `step_alike` / `run_alike` / `compile_alike` — from tags to compilations.
-/

namespace Stencil.Program

open Stencil.Source (LineIndex)
open Stencil.Tag
open Stencil.Template

/-- Two results are alike when both are errors or both are values, and what they hold
    belongs together. -/
inductive Alike {α β : Type} (fails : TemplateError → TemplateError → Prop)
    (yields : α → β → Prop) : Except TemplateError α → Except TemplateError β → Prop where
  | error {left right : TemplateError} (failed : fails left right) :
      Alike fails yields (.error left) (.error right)
  | ok {left : α} {right : β} (yielded : yields left right) :
      Alike fails yields (.ok left) (.ok right)

section Results

variable {α β : Type} {fails : TemplateError → TemplateError → Prop} {yields : α → β → Prop}
  {left : Except TemplateError α} {right : Except TemplateError β}

theorem Alike.imp {others : α → β → Prop} (alike : Alike fails yields left right)
    (weaker : ∀ left right, yields left right → others left right) :
    Alike fails others left right := by
  cases alike with
  | error failed => exact .error failed
  | ok yielded => exact .ok (weaker _ _ yielded)

theorem Alike.isError_iff (alike : Alike fails yields left right) :
    (∃ error, left = .error error) ↔ ∃ error, right = .error error := by
  cases alike <;> simp

end Results

/-! ## Reading alike -/

/-- Options under which the same tokens are cut and the same tags are found. -/
structure ReadAlike (options others : CompileOptions) : Prop where
  letters : options.caseInsensitiveTags = others.caseInsensitiveTags
  rawCode : options.allowRawCode = others.allowRawCode
  comments : options.stripComments = others.stripComments

theorem ReadAlike.refl (options : CompileOptions) : ReadAlike options options := ⟨rfl, rfl, rfl⟩

theorem ReadAlike.settleRegion? {options others : CompileOptions} (same : ReadAlike options others)
    (region : Region) (text : List Char) :
    settleRegion? options region text = settleRegion? others region text := by
  simp only [Program.settleRegion?, same.letters, same.rawCode]

theorem ReadAlike.tokens {first second : Compiler} (same : ReadAlike first.options second.options)
    (source : List Char) : first.tokens source = second.tokens source := by
  simp only [Compiler.tokens, same.comments]

/-- An active candidate that no built-in kind recognises. -/
def Unclaimed (options : CompileOptions) (region : Region) (token : Token) : Prop :=
  IsActive options region token ∧ classify? options.caseInsensitiveTags token.text = none

/-- An instruction that is written without looking at a tag. -/
inductive IsBare : Instruction → Prop where
  | text (content : List Char) : IsBare (.text content)
  | notice (message : List Char) : IsBare (.notice message)
  | rawCodeClose : IsBare .rawCodeClose

theorem isBare_of_settled {options : CompileOptions} {region next : Region} {text : List Char}
    {written : List Instruction} (settled : settleRegion? options region text = some (next, written)) :
    ∀ instruction ∈ written, IsBare instruction := by
  cases settled_cases settled with
  | nothing => simp
  | notice | copy | closeRawCode => simp [IsBare.notice, IsBare.text, IsBare.rawCodeClose]

/-! ## From tags to compilations

Compilers that take every token alike take all tokens and whole templates alike, by
induction on the tokens from every state.
-/

/-- What two compilers write for a token, by the region it is reached in. -/
abbrev Writes := Region → Token → List Instruction → List Instruction → Prop

/-- Effects with the same state behind them and with instructions that belong together. -/
def Abreast (writes : List Instruction → List Instruction → Prop) (left right : Effect) : Prop :=
  left.state = right.state ∧ writes left.instructions right.instructions

/-- What a compiler writes for tokens, and what belongs to it token by token. -/
inductive Paired (compiler : Compiler) (origin : Origin) (lines : LineIndex) (writes : Writes) :
    State → List Token → List Instruction → List Instruction → Prop where
  | nil {state : State} : Paired compiler origin lines writes state [] [] []
  | cons {state : State} {token : Token} {tokens : List Token} {effect : Effect}
      {written left right : List Instruction}
      (stepped : compiler.step origin lines state token = .ok effect)
      (here : writes state.region token effect.instructions written)
      (rest : Paired compiler origin lines writes effect.state tokens left right) :
      Paired compiler origin lines writes state (token :: tokens) (effect.instructions ++ left)
        (written ++ right)

theorem Paired.forall₂ {compiler : Compiler} {origin : Origin} {lines : LineIndex} {state : State}
    {tokens : List Token} {left right : List Instruction}
    {related : Instruction → Instruction → Prop}
    (paired : Paired compiler origin lines (fun _ _ => List.Forall₂ related) state tokens left right) :
    List.Forall₂ related left right := by
  induction paired with
  | nil => exact .nil
  | cons _ here _ ih => exact List.rel_append here ih

section Compilers

variable {first second : Compiler} {origin other : Origin} {lines : LineIndex}
  {fails : TemplateError → TemplateError → Prop} (writes : Writes)

/-- Beside ordinary tags and custom tags there is nothing that could tell compilers apart. -/
theorem step_alike (same : ReadAlike first.options second.options) {state : State} {token : Token}
    (bare : ¬ Unclaimed first.options state.region token →
      ∀ written, (∀ instruction ∈ written, IsBare instruction) →
        writes state.region token written written)
    (custom : Unclaimed first.options state.region token →
      writes state.region token (first.customTags token.text) (second.customTags token.text))
    (tag : ∀ found, ¬ Unclaimed first.options state.region token →
      Alike fails (Abreast (writes state.region token))
        (first.ordinaryTag origin lines state token.span found)
        (second.ordinaryTag other lines state token.span found)) :
    Alike fails (Abreast (writes state.region token)) (first.step origin lines state token)
      (second.step other lines state token) := by
  unfold Compiler.step
  cases kind : token.kind with
  | comment => exact .ok ⟨rfl, bare (fun unclaimed => by simp [unclaimed.1.1] at kind) _ (by simp)⟩
  | literal =>
    refine .ok ⟨rfl, bare (fun unclaimed => by simp [unclaimed.1.1] at kind) _ ?_⟩
    split <;> simp [IsBare.text]
  | candidate =>
    simp only [Compiler.candidate, ← same.settleRegion?, ← same.letters]
    cases settled : settleRegion? first.options state.region token.text with
    | some next =>
      refine .ok ⟨rfl, bare (fun unclaimed => ?_) _ (isBare_of_settled settled)⟩
      rw [(isActive_iff kind).1 unclaimed.1] at settled
      cases settled
    | none =>
      cases classified : classify? first.options.caseInsensitiveTags token.text with
      | some found => exact tag found fun unclaimed => by simp [unclaimed.2] at classified
      | none => exact .ok ⟨rfl, custom ⟨(isActive_iff kind).2 settled, classified⟩⟩

theorem run_alike
    (steps : ∀ state token, Alike fails (Abreast (writes state.region token))
      (first.step origin lines state token) (second.step other lines state token))
    (state : State) (tokens : List Token) :
    Alike fails
      (fun left right => left.1 = right.1 ∧
        Paired first origin lines writes state tokens left.2 right.2)
      (first.run origin lines state tokens).result (second.run other lines state tokens).result := by
  induction tokens generalizing state with
  | nil => exact .ok ⟨rfl, .nil⟩
  | cons token tokens ih =>
    have here := steps state token
    rw [result_run_cons, result_run_cons]
    generalize stepped : first.step origin lines state token = left at here
    generalize second.step other lines state token = right at here
    cases here with
    | error failed => exact .error failed
    | @ok effect moved yielded =>
      obtain ⟨sameState, written⟩ := yielded
      have later := ih effect.state
      -- Both go on from one state, so the rest of the tokens is compared from there.
      simp only [← sameState]
      generalize (first.run origin lines effect.state tokens).result = left at later
      generalize (second.run other lines effect.state tokens).result = right at later
      cases later with
      | error failed => exact .error failed
      | ok yielded => exact .ok ⟨yielded.1, .cons stepped written yielded.2⟩

theorem compile_alike (same : ReadAlike first.options second.options) (source : List Char)
    (unclosed : ∀ block span, fails (.unclosed block origin span) (.unclosed block other span))
    (steps : ∀ lines state token, Alike fails (Abreast (writes state.region token))
      (first.step origin lines state token) (second.step other lines state token)) :
    Alike fails
      (fun left right => Paired first origin (LineIndex.ofText (normalizeLineEndings source)) writes
        {} (first.tokens source) left.instructions right.instructions)
      (first.compile source origin).result (second.compile source other).result := by
  have ran := run_alike writes (steps (LineIndex.ofText (normalizeLineEndings source))) {}
    (first.tokens source)
  rw [compile_result, compile_result, Compiler.runOver, Compiler.runOver, ← same.tokens]
  generalize (first.run origin _ {} (first.tokens source)).result = left at ran ⊢
  generalize (second.run other _ {} (first.tokens source)).result = right at ran ⊢
  cases ran with
  | error failed => exact .error failed
  | @ok left right yielded =>
    obtain ⟨final, written⟩ := left
    obtain ⟨_, others⟩ := right
    obtain ⟨rfl, paired⟩ := yielded
    -- One state at the end, so the same block is left open or none is.
    simp only [Compiler.unclosed?]
    cases final.conditionals with
    | cons span outer => exact .error (unclosed _ _)
    | nil =>
      cases final.loops with
      | cons span outer => exact .error (unclosed _ _)
      | nil => exact .ok paired

end Compilers

end Stencil.Program
