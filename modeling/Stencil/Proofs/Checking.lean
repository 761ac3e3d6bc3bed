import Stencil.Command.Check
import Stencil.Project.Build
import Stencil.Proofs.Locations
import Stencil.Proofs.Origins

/-! # Checking and compiling agree

A file is checked under its own path and compiled under the directory of its name, so the
two compile one source from two origins.  That has an influence on includes only: what is
reported by the one is rejected by the other.

* `result_compileTemplate` — a template that is due is compiled as it is read;
* `compile_anywhere` — origins matter to includes only, so the two agree.
-/

namespace Stencil

open Stencil.Command (checkSource)
open Stencil.Program (Alike Artifact Compiler Format Instruction SameFault compile_moved)
open Stencil.Template (Origin TemplateError)

variable {project : Project} {store : Store} {here : Location} {now : Time} {format : Format}
  {force : Bool} {name path source : List Char} {compiler : Compiler}

theorem isSome_checkSource_iff :
    (checkSource compiler path source).2.isSome = true ↔ ∃ error,
      (compiler.compile source (.file (Command.directoryOf path) path)).result = .error error := by
  unfold checkSource
  dsimp only
  split <;> simp_all

theorem result_build_iff {origin : Origin} {done : Artifact → List Char} :
    (∃ error, (project.build store here now format source origin path done).result =
        .error (.template error)) ↔
      ∃ error, (project.compiler.compile source origin).result = .error error := by
  unfold Project.build Compiler.build
  dsimp only
  cases (project.compiler.compile source origin).result with
  | error error => simp [Except.map]
  | ok program =>
    simp only [Except.map, reduceCtorEq, exists_false, iff_false, not_exists]
    intro error
    -- What compiles can still fail to be written, but not because of the template.
    split <;> simp

/-- A template that can be read and whose artifact is not kept is built. -/
theorem result_compileTemplate (read : store.readText here (project.templatePath name) = .ok source)
    (due : force = true ∨ project.isStale store here (project.templatePath name)
      (project.artifactPath format name) = true) :
    ∃ done, project.compileTemplate store here now format force name =
      project.build store here now format source
        (.file (project.locate name).directory (project.locate name).path)
        (project.artifactPath format name) done := by
  obtain ⟨contents, written, leads, -⟩ := Store.readText_eq_ok_iff.1 read
  have holds : store.holdsFile here (project.templatePath name) = true :=
    Store.holdsFile_iff.2 ⟨contents, written, leads⟩
  have notKept : (!force && !project.isStale store here (project.templatePath name)
      (project.artifactPath format name)) = false := by
    rcases due with due | due <;> simp [due]
  unfold Project.compileTemplate
  simp only [holds, notKept, read, Bool.not_true, Bool.false_eq_true, if_false]
  exact ⟨_, rfl⟩

/-- Where a template lives affects its includes only: from any two origins it is rejected with
    errors of the same kind, block and span, or compiled to programs that differ in what is
    included.  So a check reports an error exactly when compiling the template does. -/
theorem compile_anywhere (compiler : Compiler) (source : List Char) (origin other : Origin) :
    Alike SameFault
        (fun program moved : Program =>
          List.Forall₂ Instruction.Relocated program.instructions moved.instructions)
        (compiler.compile source origin).result (compiler.compile source other).result ∧
      ∀ (project : Project) (store : Store) (here : Location) (now : Time) (format : Format)
        (force : Bool) (name path : List Char), project.compiler = compiler →
        store.readText here (project.templatePath name) = .ok source →
        (force = true ∨ project.isStale store here (project.templatePath name)
          (project.artifactPath format name) = true) →
        ((checkSource compiler path source).2.isSome = true ↔
          ∃ error, (project.compileTemplate store here now format force name).result =
            .error (.template error)) := by
  refine ⟨(compile_moved compiler source origin other).imp fun _ _ pairs =>
    pairs.imp fun _ _ moved => moved.1, ?_⟩
  rintro project store here now format force name path rfl read due
  obtain ⟨done, builds⟩ := @result_compileTemplate _ _ _ now _ _ _ _ read due
  rw [builds, result_build_iff, isSome_checkSource_iff]
  exact (compile_moved _ _ _ _).isError_iff

/-- A block without an end, in a template that also includes another one. -/
theorem compile_anywhere_unclosed :
    let project : Project := ⟨[], Settings.normalized {}, .empty⟩
    let source := "\x7bif=\"$b\"\x7d\x7binclude=\"c\"\x7d".toList
    let store : Store := ⟨[(["templates".toList], .directory),
      (["templates".toList, "a.html".toList], .file (Text.encode source) 1)]⟩
    (checkSource project.compiler "templates/a.html".toList source).2.isSome = true ∧
      ∃ error, (project.compileTemplate store [] 2 .json true "a".toList).result =
        .error (.template error) := by
  intro project source store
  have reports :
      (checkSource project.compiler "templates/a.html".toList source).2.isSome = true := by
    decide +kernel
  have read : store.readText [] (project.templatePath "a".toList) = .ok source := by
    decide +kernel
  have agree := (compile_anywhere project.compiler source (.file [] []) (.string [] 1)).2
    project store [] 2 .json true "a".toList "templates/a.html".toList rfl read (.inl rfl)
  exact ⟨reports, agree.1 reports⟩

end Stencil
