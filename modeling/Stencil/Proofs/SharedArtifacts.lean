import Stencil.Proofs.ArtifactNames

/-! # Templates that share an artifact

The name of an artifact has the name of the template with dots for slashes, and a
digest of its directory.  Two names that are both relative, or both from the top,
can be told apart by these.  A relative name that spells out, with dots, the
directory of templates it is looked for in cannot be told from the name from the
top that it is flattened like: the two templates share one artifact.

* `Settings.Respells` — a relative name that is flattened like one from the top;
* `Settings.Respells.shares` — the two have one artifact and lie apart;
* `artifact_shared_iff` — the templates that share an artifact are those.
-/

namespace Stencil

open Stencil.Digest (sha256Hex)
open Stencil.Program (Format)
open Stencil.Text (bytes replaceChar)

variable {settings : Settings} {name one other short full : List Char}

/-! ## Flattened names -/

theorem length_flattened (text : List Char) : (replaceChar '/' ['.'] text).length = text.length := by
  induction text with
  | nil => rfl
  | cons c text ih =>
    unfold replaceChar at ih ⊢
    rw [List.flatMap_cons, List.length_append, ih]
    split <;> simp [Nat.add_comm]

theorem withoutSlashes_eq_nil_iff {text : List Char} :
    withoutSlashes text = [] ↔ ∀ c ∈ text, c = '/' := by
  simp [withoutSlashes, List.dropWhile_eq_nil_iff]

theorem folderOf_of_relative (relative : IsRelative name) : (folderOf name).head? ≠ some '/' := by
  intro first
  apply relative
  rw [← folderOf_append_baseOf name]
  simp [first]

/-! ## Shared artifacts -/

/-- A relative name that spells out, with dots, where the directory of templates lies.  It
    is flattened like a name from the top that points into the same directory. -/
structure Settings.Respells (settings : Settings) (short full : List Char) : Prop where
  relative : IsRelative short
  rooted : ¬ IsRelative full
  folder : folderOf full = settings.templateDir ++ folderOf short
  below : ∃ c ∈ settings.templateDir, c ≠ '/'
  flattened : Project.cacheName short = Project.cacheName full

theorem path_eq_directoryOf (project : Project) (name : List Char) :
    (project.locate name).path =
      directoryOf project.settings name ++ baseOf name ++ '.' :: project.settings.extension :=
  rfl

theorem directoryOf_relative (isRelative : IsRelative name) :
    directoryOf settings name = settings.templateDir ++ folderOf name := if_neg isRelative

theorem directoryOf_rooted (isRooted : ¬ IsRelative name) :
    directoryOf settings name = folderOf name := if_pos (not_not.1 isRooted)

/-- A relative name and one from the top that look the same in the cache. -/
theorem respells_of_ne (isRelative : IsRelative short) (isRooted : ¬ IsRelative full)
    (directories : directoryOf settings short = directoryOf settings full)
    (keys : Project.cacheName short = Project.cacheName full)
    (bases : baseOf short ≠ baseOf full) : settings.Respells short full := by
  rw [directoryOf_relative isRelative, directoryOf_rooted isRooted] at directories
  refine ⟨isRelative, isRooted, directories.symm, ?_, keys⟩
  by_contra shallow
  -- With slashes only in front nothing but the last part of the name is left to differ.
  have slashes : withoutSlashes settings.templateDir = [] := by
    rw [withoutSlashes_eq_nil_iff]
    intro c listed
    by_contra other
    exact shallow ⟨c, listed, other⟩
  have inner := folderOf_of_relative isRelative
  rw [cacheName_eq, cacheName_eq, ← directories, withoutSlashes_append inner, slashes,
    withoutSlashes_of_head inner, List.nil_append] at keys
  exact bases (List.append_cancel_left keys)

/-- A respelled name has a longer last part. -/
theorem Settings.Respells.baseOf_ne (respells : settings.Respells short full) :
    baseOf short ≠ baseOf full := by
  intro bases
  have inner := folderOf_of_relative respells.relative
  have keys := respells.flattened
  rw [cacheName_eq, cacheName_eq, respells.folder, withoutSlashes_append inner,
    withoutSlashes_of_head inner, bases] at keys
  have lengths := congrArg List.length (List.append_cancel_right keys)
  rw [length_flattened, length_flattened, List.length_append] at lengths
  have bare : withoutSlashes settings.templateDir = [] := List.eq_nil_of_length_eq_zero (by omega)
  obtain ⟨c, listed, other⟩ := respells.below
  exact other (withoutSlashes_eq_nil_iff.1 bare c listed)

theorem Settings.Respells.directoryOf_eq (respells : settings.Respells short full) :
    directoryOf settings short = directoryOf settings full := by
  rw [directoryOf_relative respells.relative, directoryOf_rooted respells.rooted, respells.folder]

theorem Settings.Respells.fileName_eq (respells : settings.Respells short full)
    (format : Format) :
    (Entry.template settings format short).fileName =
      (Entry.template settings format full).fileName := by
  simp only [Entry.fileName, Entry.stem_template, templateMessage, respells.directoryOf_eq,
    respells.flattened, Entry.format]

theorem Settings.Respells.shares {project : Project}
    (respells : project.settings.Respells short full) (format : Format) :
    project.artifactPath format short = project.artifactPath format full ∧
      (project.locate short).path ≠ (project.locate full).path := by
  constructor
  · rw [artifactPath_eq, artifactPath_eq, respells.fileName_eq]
  · rw [path_eq_directoryOf, path_eq_directoryOf, respells.directoryOf_eq]
    intro paths
    exact respells.baseOf_ne (List.append_cancel_left (List.append_cancel_right paths))

/-- Two templates share an artifact only if one of them respells the other. -/
theorem artifact_shared_iff (project : Project) (format : Format) (one other : List Char)
    (distinct : NoCollisions (fun message => (sha256Hex message).take 8)
      [templateMessage project.settings one, templateMessage project.settings other]) :
    project.artifactPath format one = project.artifactPath format other ∧
        (project.locate one).path ≠ (project.locate other).path ↔
      project.settings.Respells one other ∨ project.settings.Respells other one := by
  constructor
  · rintro ⟨same, paths⟩
    rw [artifactPath_eq, artifactPath_eq] at same
    have names := congrArg baseOf same
    rw [baseOf_joinPath (isFileName_fileName _), baseOf_joinPath (isFileName_fileName _)] at names
    obtain ⟨keys, digests⟩ := Entry.stem_template_inj (Entry.fileName_inj names).2
    have messages := distinct _ (.head _) _ (.tail _ (.head _)) digests
    have directories := (bytes_checksum_inj messages).1
    -- In one directory, templates that differ do so in the last part of their names.
    have bases : baseOf one ≠ baseOf other := by
      intro bases
      exact paths (by rw [path_eq_directoryOf, path_eq_directoryOf, directories, bases])
    by_cases oneRelative : IsRelative one <;> by_cases otherRelative : IsRelative other
    · rw [directoryOf_relative oneRelative, directoryOf_relative otherRelative] at directories
      exact absurd (baseOf_eq_of_folder (List.append_cancel_left directories) keys) bases
    · exact .inl (respells_of_ne oneRelative otherRelative directories keys bases)
    · exact .inr (respells_of_ne otherRelative oneRelative directories.symm keys.symm bases.symm)
    · rw [directoryOf_rooted oneRelative, directoryOf_rooted otherRelative] at directories
      exact absurd (baseOf_eq_of_folder directories keys) bases
  · rintro (respells | respells)
    · exact respells.shares format
    · obtain ⟨artifacts, paths⟩ := respells.shares format
      exact ⟨artifacts.symm, paths.symm⟩

/-- The directory of templates, spelled with dots in front of a name. -/
theorem artifact_shared_dots :
    let project : Project := ⟨"site".toList, { templateDir := "/srv/views/".toList }, .empty⟩
    let dotted := "srv.views.page".toList
    let rooted := "/srv/views/page".toList
    NoCollisions (fun message => (sha256Hex message).take 8)
        [templateMessage project.settings dotted, templateMessage project.settings rooted] ∧
      project.artifactPath .php dotted = project.artifactPath .php rooted ∧
      (project.locate dotted).path ≠ (project.locate rooted).path := by
  intro project dotted rooted
  have respells : project.settings.Respells dotted rooted :=
    ⟨by decide, by decide, by decide, ⟨'s', by decide, by decide⟩, by decide⟩
  have distinct : NoCollisions (fun message => (sha256Hex message).take 8)
      [templateMessage project.settings dotted, templateMessage project.settings rooted] := by
    rw [templateMessage, templateMessage, respells.directoryOf_eq]
    simp [NoCollisions]
  exact ⟨distinct, (artifact_shared_iff project .php dotted rooted distinct).2 (.inl respells)⟩

end Stencil
