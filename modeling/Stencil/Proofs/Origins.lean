import Stencil.Program.Artifact
import Stencil.Proofs.SideBySide

/-! # Programs and where their templates come from

The origin of a template names it in errors, and its directory is what includes are
relative to.  Nothing else in a program depends on it.  All texts that code hands over
have the same directory, so what they become does not depend on who hands them over.

* `SameFault` — errors that differ in the origin only;
* `Instruction.Relocated` — instructions that differ in what is included only;
* `compile_moved` — compilations of one source from two origins;
* `build_of_directory` — artifacts of templates in the same directory.
-/

namespace Stencil.Program

open Stencil.Source (LineIndex Span)
open Stencil.Tag
open Stencil.Template

/-- Errors of the same kind, about the same block at the same place. -/
inductive SameFault : TemplateError → TemplateError → Prop where
  | unclosed (block : Block) (origin other : Origin) (span : Span) :
      SameFault (.unclosed block origin span) (.unclosed block other span)
  | unexpectedClose (block : Block) (origin other : Origin) (span : Span) :
      SameFault (.unexpectedClose block origin span) (.unexpectedClose block other span)

/-- Targets that are both fixed, or both computed from the same expression. -/
inductive IncludeTarget.Relocated : IncludeTarget → IncludeTarget → Prop where
  | fixed (path other : List Char) : Relocated (.fixed path) (.fixed other)
  | dynamic (folder other : List Char) (path : Expr) :
      Relocated (.dynamic folder path) (.dynamic other path)

/-- The same instruction, or two includes with targets of one kind. -/
inductive Instruction.Relocated : Instruction → Instruction → Prop where
  | same (instruction : Instruction) : Relocated instruction instruction
  | inclusion {target other : IncludeTarget} (relocated : target.Relocated other) :
      Relocated (.inclusion target) (.inclusion other)

/-- What an instruction becomes at another origin: the same in the same directory. -/
def Moved (origin other : Origin) (instruction moved : Instruction) : Prop :=
  instruction.Relocated moved ∧ (origin.directory = other.directory → instruction = moved)

variable {compiler : Compiler} {origin other : Origin} {lines : LineIndex} {state : State}

theorem moved_same (written : List Instruction) :
    List.Forall₂ (Moved origin other) written written :=
  List.forall₂_same.2 fun instruction _ => ⟨.same instruction, fun _ => rfl⟩

theorem moved_includeTarget (path : List Char) (level : Nat) :
    Moved origin other (.inclusion (compiler.includeTarget origin path level))
      (.inclusion (compiler.includeTarget other path level)) := by
  refine ⟨.inclusion ?_, fun same => by simp only [Compiler.includeTarget, same]⟩
  unfold Compiler.includeTarget
  dsimp only
  split
  · exact .dynamic _ _ _
  · exact .fixed _ _

/-- A tag that leads to the same state and instructions, whatever is reported on the way. -/
theorem moved_of_same {next : State} {written : List Instruction} {events others : List Event} :
    Alike SameFault (Abreast (List.Forall₂ (Moved origin other))) (.ok ⟨next, written, events⟩)
      (.ok ⟨next, written, others⟩) :=
  .ok ⟨rfl, moved_same written⟩

theorem ordinaryTag_moved {span : Span} {found : TagMatch} :
    Alike SameFault (Abreast (List.Forall₂ (Moved origin other)))
      (compiler.ordinaryTag origin lines state span found)
      (compiler.ordinaryTag other lines state span found) := by
  unfold Compiler.ordinaryTag
  cases found.kind with
  | inclusion => exact .ok ⟨rfl, .cons (moved_includeTarget _ _) .nil⟩
  | rawCodeOpen => cases compiler.options.allowRawCode <;> exact moved_of_same
  | loopClose =>
    cases state.loops with
    | nil => exact .error (.unexpectedClose .loop origin other span)
    | cons => exact moved_of_same
  | ifClose =>
    cases state.conditionals with
    | nil => exact .error (.unexpectedClose .conditional origin other span)
    | cons => exact moved_of_same
  | autoescapeClose => cases state.escapes <;> exact moved_of_same
  | functionCall => cases found.argument? 2 <;> exact moved_of_same
  | _ => exact moved_of_same

theorem step_moved (lines : LineIndex) (state : State) (token : Token) :
    Alike SameFault (Abreast (List.Forall₂ (Moved origin other)))
      (compiler.step origin lines state token) (compiler.step other lines state token) :=
  step_alike (fun _ _ => List.Forall₂ (Moved origin other)) (.refl compiler.options)
    (fun _ written _ => moved_same written) (fun _ => moved_same _) fun _ _ => ordinaryTag_moved

/-- A source is compiled from both origins or from neither, to what belongs together. -/
theorem compile_moved (compiler : Compiler) (source : List Char) (origin other : Origin) :
    Alike SameFault
      (fun program moved : Program =>
        List.Forall₂ (Moved origin other) program.instructions moved.instructions)
      (compiler.compile source origin).result (compiler.compile source other).result :=
  (compile_alike _ (.refl compiler.options) source (fun block span => .unclosed block _ _ span)
    step_moved).imp fun _ _ => Paired.forall₂

/-- Templates that are the same text in the same directory become the same artifact. -/
theorem build_of_directory (same : origin.directory = other.directory) {format : Format}
    {source : List Char} {artifact : Artifact}
    (built : (compiler.build format source origin).2 = .ok artifact) :
    (compiler.build format source other).2 = .ok artifact := by
  have alike := compile_moved compiler source origin other
  unfold Compiler.build at built ⊢
  dsimp only at built ⊢
  generalize (compiler.compile source origin).result = result at alike built
  generalize (compiler.compile source other).result = moved at alike
  cases alike with
  | error => cases built
  | @ok program moved pairs =>
    have instructions : program.instructions = moved.instructions := by
      rw [← List.forall₂_eq_eq_eq]
      exact pairs.imp fun _ _ moves => moves.2 same
    have programs : program = moved := by
      cases program
      cases moved
      exact congrArg Program.mk instructions
    rw [← programs]
    exact built

end Stencil.Program
