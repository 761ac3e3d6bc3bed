import Stencil.Project.Basic
import Stencil.Proofs.PathReduction

/-! # Included templates

The target of an include is a name again, so three things have to fit: the directory of
templates is taken off in front, the rest is brought into its short form, and the name is
looked up in the directory of templates, unless it starts with a slash.

* `Project.placed` — where a name points, without the extension;
* `includeTarget_placed` — the name of which a target is the short form;
* `include_beside` — an include lands beside the including template.
-/

namespace Stencil

open Stencil.Program (IncludeTarget)
open Stencil.Template (Origin SamePlace head?_reducePath reducePath samePlace_reducePath)
open Stencil.Text (stripStart?)

variable {project : Project} {root : List Char} {settings : Settings} {registry : Tag.Registry}
  {name path : List Char} {origin : Origin}

/-- Where a name points, without the extension. -/
def Project.placed (project : Project) (name : List Char) : List Char :=
  if name.head? = some '/' then name else project.settings.templateDir ++ name

theorem directory_locate : (project.locate name).directory =
    if name.head? = some '/' then folderOf name
    else project.settings.templateDir ++ folderOf name :=
  rfl

theorem path_locate : (project.locate name).path =
    project.placed name ++ '.' :: project.settings.extension := by
  have path : (project.locate name).path = (project.locate name).directory ++ baseOf name ++
      '.' :: project.settings.extension := rfl
  rw [path, directory_locate, Project.placed]
  split
  · rw [folderOf_append_baseOf]
  · rw [List.append_assoc project.settings.templateDir, folderOf_append_baseOf]

theorem placed_folderOf (inner : path.head? ≠ some '/') :
    project.placed (folderOf name ++ path) = (project.locate name).directory ++ path := by
  have rooted : (folderOf name ++ path).head? = some '/' ↔ name.head? = some '/' := by
    have whole := folderOf_append_baseOf name
    have base : (baseOf name).head? ≠ some '/' := fun first =>
      slash_not_mem_baseOf name (List.mem_of_head? first)
    generalize folderOf name = folder at whole ⊢
    generalize baseOf name = last at whole base
    subst whole
    cases folder <;> simp [inner, base]
  rw [Project.placed, directory_locate]
  simp only [rooted]
  split
  · rfl
  · rw [List.append_assoc]

theorem normalized_templateDir (settings : Settings) :
    settings.normalized.templateDir = [] ∨ settings.normalized.templateDir.getLast? = some '/' := by
  show Settings.withTrailingSlash settings.templateDir = [] ∨
    (Settings.withTrailingSlash settings.templateDir).getLast? = some '/'
  unfold Settings.withTrailingSlash
  split
  · simp_all
  · simp

/-- What is left of a folder behind the directory of templates points into the folder. -/
theorem placed_stripped {folder : List Char} (opens : project.settings.templateDir = [] ∨
      project.settings.templateDir.getLast? = some '/')
    (single : ¬ "//".toList <:+: name) (inner : path.head? ≠ some '/')
    (whole : project.settings.templateDir ++ folder = folderOf name) :
    project.placed (folder ++ path) = folderOf name ++ path := by
  rw [← whole, Project.placed, List.append_assoc]
  split
  · rename_i slash
    rcases opens with bare | ends
    · rw [bare, List.nil_append]
    · -- Then the folder has a slash behind the one that the directory of templates ends in.
      obtain ⟨parent, split⟩ := List.getLast?_eq_some_iff.1 ends
      cases folder with
      | nil => exact absurd slash inner
      | cons c folder =>
        simp only [List.cons_append, List.head?_cons, Option.some.injEq] at slash
        refine absurd ⟨parent, folder ++ baseOf name, ?_⟩ single
        calc parent ++ "//".toList ++ (folder ++ baseOf name)
            = parent ++ ['/'] ++ '/' :: folder ++ baseOf name := by simp
          _ = name := by rw [← split, ← slash, whole, folderOf_append_baseOf]
  · rfl

/-- The name of which a target is the short form points into the directory of the including
    template. -/
theorem includeTarget_placed (opens : project.settings.templateDir = [] ∨
      project.settings.templateDir.getLast? = some '/')
    (level : Nat) (single : ¬ "//".toList <:+: name) (fixed : '$' ∉ path)
    (inner : path.head? ≠ some '/') (beside : origin.directory = (project.locate name).directory) :
    ∃ written, project.compiler.includeTarget origin path level = .fixed (reducePath written) ∧
      project.placed written = (project.locate name).directory ++ path := by
  have target (folder : List Char)
      (taken : (stripStart? project.settings.templateDir origin.directory).getD origin.directory =
        folder) :
      project.compiler.includeTarget origin path level = .fixed (reducePath (folder ++ path)) := by
    subst taken
    simp only [Program.Compiler.includeTarget, List.contains_eq_mem, fixed, decide_false,
      Bool.false_eq_true, if_false]
    rfl
  rw [beside] at target
  -- The directory of a relative name always begins with that of the templates.
  by_cases absolute : name.head? = some '/'
  · have directory : (project.locate name).directory = folderOf name := by
      rw [directory_locate, if_pos absolute]
    rw [directory] at target ⊢
    cases stripped : stripStart? project.settings.templateDir (folderOf name) with
    | none =>
      refine ⟨_, target (folderOf name) (by rw [stripped]; rfl), ?_⟩
      rw [placed_folderOf inner, directory]
    | some folder =>
      refine ⟨_, target folder (by rw [stripped]; rfl), ?_⟩
      exact placed_stripped opens single inner (Text.isPrefixOf?_eq_some_iff.1 stripped)
  · refine ⟨_, target (folderOf name) ?_, placed_folderOf inner⟩
    have stripped : stripStart? project.settings.templateDir (project.locate name).directory =
        some (folderOf name) := by
      rw [directory_locate, if_neg absolute]
      exact Text.isPrefixOf?_eq_some_iff.2 rfl
    rw [stripped]
    rfl

/-- The target of an include names a template at the path in the directory of the including
    one. -/
theorem include_beside (root : List Char) (settings : Settings) (registry : Tag.Registry)
    (plain : '/' ∉ settings.extension) (single : ¬ "//".toList <:+: name) (fixed : '$' ∉ path)
    (inner : path.head? ≠ some '/') (level : Nat) :
    let project : Project := ⟨root, settings.normalized, registry⟩
    origin.directory = (project.locate name).directory →
    ∃ target, project.compiler.includeTarget origin path level = .fixed target ∧
      SamePlace (project.locate target).path
        ((project.locate name).directory ++ path ++ '.' :: settings.extension) := by
  intro project beside
  have opens := normalized_templateDir settings
  obtain ⟨written, targets, points⟩ :=
    @includeTarget_placed project _ _ _ opens level single fixed inner beside
  refine ⟨_, targets, ?_⟩
  have tail : '/' ∉ '.' :: settings.extension := by simpa using plain
  rw [path_locate, ← points]
  unfold Project.placed
  simp only [head?_reducePath]
  split
  · exact samePlace_reducePath (.inl rfl) tail written
  · exact samePlace_reducePath opens tail written

/-- A name from the top, in a directory of templates from the top. -/
theorem include_beside_absolute :
    let settings : Settings := { templateDir := "/srv/pages".toList }
    let project : Project := ⟨"site".toList, settings.normalized, .empty⟩
    let origin : Origin := .file "/srv/pages/blog/".toList "/srv/pages/blog/post.html".toList
    project.compiler.includeTarget origin "../parts//./old/../menu".toList 0 =
        .fixed "parts/menu".toList ∧
      SamePlace (project.locate "parts/menu".toList).path
        "/srv/pages/blog/../parts//./old/../menu.html".toList := by
  intro settings project origin
  obtain ⟨target, targets, same⟩ :=
    @include_beside "/srv/pages/blog/post".toList "../parts//./old/../menu".toList origin
      "site".toList settings .empty (by decide) (by simp [List.infix_cons_iff]) (by decide)
      (by decide) 0 (by decide +kernel)
  have short : project.compiler.includeTarget origin "../parts//./old/../menu".toList 0 =
      .fixed "parts/menu".toList := by
    decide +kernel
  cases targets.symm.trans short
  exact ⟨short, same⟩

end Stencil
