import Stencil.Proofs.ArtifactNames

/-! # Failed compiles

A template is refused before anything is written: because there is no such file,
because its contents are no text, or because the text is no template.  Only when
the artifact itself cannot be written may something have changed.

* `Project.Refuses` / `Project.RefusesText` — why nothing is compiled, and the error;
* `build_of_error` / `error_of_build` — nothing is written for a source that fails;
* `refuses_of_error` / `compileTemplate_of_refuses` — the error of a template says why;
* `refusesText_of_error` / `compileString_of_refuses` — that of a text does;
* `refused_unchanged` — and the store is left as it was.
-/

namespace Stencil

open Stencil.Program (Artifact Format)
open Stencil.Template (Origin TemplateError)

variable {project : Project} {store : Store} {here : Location} {now : Time} {format : Format}
  {force : Bool} {name source path : List Char} {origin : Origin} {caller : Caller}
  {error : ProjectError} {fault : TemplateError} {done : Artifact → List Char}

/-! ## Reasons -/

/-- The artifact was made and could not be written. -/
def ProjectError.IsWriteFailure : ProjectError → Prop
  | .writeFailed _ _ => True
  | _ => False

namespace Project

/-- Whether the artifact of a template has to be made. -/
def IsDue (project : Project) (store : Store) (here : Location) (format : Format) (force : Bool)
    (name : List Char) : Prop :=
  force = true ∨ project.isStale store here (project.templatePath name)
    (project.artifactPath format name) = true

/-- The origin of a named template. -/
def originOf (project : Project) (name : List Char) : Origin :=
  .file (project.locate name).directory (project.locate name).path

/-- Why a named template is not compiled, and the error that says so. -/
inductive Refuses (project : Project) (store : Store) (here : Location) (format : Format)
    (force : Bool) (name : List Char) : ProjectError → Prop where
  | missing (absent : store.holdsFile here (project.templatePath name) = false) :
      Refuses project store here format force name (.templateNotFound (project.templatePath name))
  | unreadable {contents : ByteArray} {written : Time}
      (due : project.IsDue store here format force name)
      (leads : store.LeadsTo here (project.templatePath name) contents written)
      (invalid : Text.decode? contents = none) :
      Refuses project store here format force name (.store .invalidText)
  | malformed {source : List Char} {fault : TemplateError}
      (due : project.IsDue store here format force name)
      (read : store.readText here (project.templatePath name) = .ok source)
      (fails : (project.compiler.build format source (project.originOf name)).2 = .error fault) :
      Refuses project store here format force name (.template fault)

/-- Why a text is not compiled, and the error that says so. -/
inductive RefusesText (project : Project) (store : Store) (here : Location) (format : Format)
    (caller : Caller) (source : List Char) : ProjectError → Prop where
  | malformed {fault : TemplateError}
      (due : project.settings.debug = true ∨
        store.holdsFile here (project.stringPath format source) = false)
      (fails : (project.compiler.build format source (.string caller.file caller.line)).2 =
        .error fault) :
      RefusesText project store here format caller source (.template fault)

theorem isDue_iff : project.IsDue store here format force name ↔
    (!force && !project.isStale store here (project.templatePath name)
      (project.artifactPath format name)) = false := by
  unfold IsDue
  cases force <;> simp

/-! ## Building -/

/-- A source that does not compile is refused before anything is written. -/
theorem build_of_error (fails : (project.compiler.build format source origin).2 = .error fault) :
    (project.build store here now format source origin path done).result =
        .error (.template fault) ∧
      (project.build store here now format source origin path done).store = store := by
  unfold build
  cases compiled : project.compiler.build format source origin with
  | mk events result =>
    rw [compiled] at fails
    cases fails
    exact ⟨rfl, rfl⟩

/-- A source that compiles is only refused if the artifact cannot be written. -/
theorem error_of_build (notWriting : ¬ error.IsWriteFailure)
    (failed : (project.build store here now format source origin path done).result =
      .error error) :
    ∃ fault, error = .template fault ∧
      (project.compiler.build format source origin).2 = .error fault := by
  unfold build at failed
  cases compiled : project.compiler.build format source origin with
  | mk events result =>
    rw [compiled] at failed
    cases result with
    | error fault =>
      cases failed
      exact ⟨fault, rfl, rfl⟩
    | ok artifact =>
      -- What is left to fail is the writing.
      simp only at failed
      split at failed
      · cases failed
        exact absurd trivial notWriting
      · cases failed

/-! ## Templates -/

theorem readText_of_leadsTo {contents : ByteArray} {written : Time}
    (leads : store.LeadsTo here path contents written) :
    store.readText here path = match Text.decode? contents with
      | some text => .ok text
      | none => .error .invalidText := by
  cases decoded : Text.decode? contents with
  | some text => simp [Store.readText, leads.1, leads.2, bind, Except.bind, decoded]
  | none => simp [Store.readText, leads.1, leads.2, bind, Except.bind, decoded]

/-- Reading a file fails only if its contents are no text. -/
theorem error_of_readText {cause : StoreError} (there : store.holdsFile here path = true)
    (failed : store.readText here path = .error cause) :
    cause = .invalidText ∧ ∃ contents written,
      store.LeadsTo here path contents written ∧ Text.decode? contents = none := by
  obtain ⟨contents, written, leads⟩ := Store.holdsFile_iff.1 there
  rw [readText_of_leadsTo leads] at failed
  cases decoded : Text.decode? contents with
  | some text => simp [decoded] at failed
  | none =>
    simp only [decoded, Except.error.injEq] at failed
    exact ⟨failed.symm, contents, written, leads, decoded⟩

theorem refuses_of_error (notWriting : ¬ error.IsWriteFailure)
    (failed : (project.compileTemplate store here now format force name).result = .error error) :
    project.Refuses store here format force name error := by
  unfold compileTemplate at failed
  simp only at failed
  split at failed
  case isTrue absent =>
    cases failed
    exact .missing (by simpa using absent)
  case isFalse there =>
  split at failed
  case isTrue => cases failed
  case isFalse stale =>
  have due := isDue_iff.2 (Bool.eq_false_iff.2 stale)
  split at failed
  · rename_i cause unread
    cases failed
    obtain ⟨rfl, contents, written, leads, invalid⟩ :=
      error_of_readText (by simpa using there) unread
    exact .unreadable due leads invalid
  · rename_i source read
    obtain ⟨fault, rfl, fails⟩ := error_of_build notWriting failed
    exact .malformed due read fails

theorem compileTemplate_of_refuses (refuses : project.Refuses store here format force name error) :
    (project.compileTemplate store here now format force name).result = .error error ∧
      (project.compileTemplate store here now format force name).store = store := by
  unfold compileTemplate
  cases refuses with
  | missing absent => simp [absent]
  | unreadable due leads invalid =>
    have there := Store.holdsFile_iff.2 ⟨_, _, leads⟩
    have unread := readText_of_leadsTo leads
    rw [invalid] at unread
    simp [there, isDue_iff.1 due, unread]
  | malformed due read fails =>
    obtain ⟨contents, written, leads, -⟩ := Store.readText_eq_ok_iff.1 read
    have there := Store.holdsFile_iff.2 ⟨_, _, leads⟩
    simp only [there, isDue_iff.1 due, read, Bool.not_true, Bool.false_eq_true, if_false]
    exact build_of_error fails

/-! ## Texts -/

theorem refusesText_of_error (notWriting : ¬ error.IsWriteFailure)
    (failed : (project.compileString store here now format caller source).result = .error error) :
    project.RefusesText store here format caller source error := by
  unfold compileString at failed
  simp only at failed
  split at failed
  case isTrue => cases failed
  case isFalse missing =>
    obtain ⟨fault, rfl, fails⟩ := error_of_build notWriting failed
    refine .malformed ?_ fails
    cases debug : project.settings.debug
    · exact .inr (by simpa [debug] using missing)
    · exact .inl rfl

theorem compileString_of_refuses
    (refuses : project.RefusesText store here format caller source error) :
    (project.compileString store here now format caller source).result = .error error ∧
      (project.compileString store here now format caller source).store = store := by
  obtain ⟨due, fails⟩ := refuses
  have missing : (!project.settings.debug &&
      store.holdsFile here (project.stringPath format source)) = false := by
    rcases due with debug | absent
    · simp [debug]
    · simp [absent]
  unfold compileString
  simp only [missing, Bool.false_eq_true, if_false]
  exact build_of_error fails

end Project

/-- An error other than that of writing an artifact says why nothing was compiled, and
    everything in the store is as it was. -/
theorem refused_unchanged (project : Project) (store : Store) (here : Location) (now : Time)
    (format : Format) (error : ProjectError) (notWriting : ¬ error.IsWriteFailure) :
    (∀ force name,
      let outcome := project.compileTemplate store here now format force name
      (outcome.result = .error error ↔ project.Refuses store here format force name error) ∧
        (outcome.result = .error error → outcome.store = store)) ∧
    ∀ caller source,
      let outcome := project.compileString store here now format caller source
      (outcome.result = .error error ↔ project.RefusesText store here format caller source error) ∧
        (outcome.result = .error error → outcome.store = store) := by
  constructor
  · intro force name outcome
    have refuses : outcome.result = .error error →
        project.Refuses store here format force name error :=
      Project.refuses_of_error notWriting
    exact ⟨⟨refuses, fun reason => (Project.compileTemplate_of_refuses reason).1⟩,
      fun failed => (Project.compileTemplate_of_refuses (refuses failed)).2⟩
  · intro caller source outcome
    have refuses : outcome.result = .error error →
        project.RefusesText store here format caller source error :=
      Project.refusesText_of_error notWriting
    exact ⟨⟨refuses, fun reason => (Project.compileString_of_refuses reason).1⟩,
      fun failed => (Project.compileString_of_refuses (refuses failed)).2⟩

/-- The artifact of an earlier text stays when the template is broken. -/
theorem refused_unchanged_stale :
    let project : Project := ⟨[], {}, .empty⟩
    let artifact : Location := ["cache".toList, (Entry.template {} .php "bad".toList).fileName]
    let store : Store := ⟨[(["templates".toList], .directory),
      (["templates".toList, "bad.html".toList],
        .file (Text.encode "\x7bloop=\"$a\"\x7d".toList) 5),
      (["cache".toList], .directory), (artifact, .file (Text.encode "old".toList) 1)]⟩
    let fault : TemplateError := .unclosed .loop
      (.file "templates/".toList "templates/bad.html".toList) ⟨0, 11⟩
    let outcome := project.compileTemplate store [] 6 .php true "bad".toList
    ¬ (ProjectError.template fault).IsWriteFailure ∧ outcome.result = .error (.template fault) ∧
      outcome.store = store := by
  intro project artifact store fault outcome
  have notWriting : ¬ (ProjectError.template fault).IsWriteFailure := id
  have refused := refused_unchanged project store [] 6 .php (.template fault) notWriting
  have fails : (project.compiler.build .php "\x7bloop=\"$a\"\x7d".toList
      (project.originOf "bad".toList)).2 = .error fault := by decide +kernel
  have failed : outcome.result = .error (.template fault) :=
    (refused.1 true "bad".toList).1.2 (.malformed (.inl rfl) (by decide +kernel) fails)
  exact ⟨notWriting, failed, (refused.1 true "bad".toList).2 failed⟩

end Stencil
