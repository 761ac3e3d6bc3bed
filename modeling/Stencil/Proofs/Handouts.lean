import Stencil.Proofs.ArtifactNames
import Stencil.Proofs.Locations

/-! # What compiling does to the store

Compiling an artifact either leaves all files as they are or writes the file at
its path.  It yields the path in the second case, or when the artifact is kept.

* `Wrote` — a file was written, and directories on the way were made;
* `Handout` — the ways in which compiling can end;
* `compileTemplate_handout` / `compileString_handout` — and does.
-/

namespace Stencil

open Stencil.Program (Artifact Format)
open Stencil.Template (Origin)
open Stencil.Text (byteLength)

variable {project : Project} {store last : Store} {here : Location} {now : Time} {format : Format}
  {path text : List Char}

/-! ## Writing -/

theorem keepsDirectories_put {location : Location} {node : Node}
    (free : store.node? location ≠ some .directory) :
    store.KeepsDirectories (store.put location node) := by
  intro other directory
  have different : other ≠ location := by
    rintro rfl
    exact free directory
  rwa [Store.node?_put_of_ne different]

/-- A file was written where a path leads, and the directories on the way were made. -/
def Wrote (store : Store) (here : Location) (now : Time) (path text : List Char) (last : Store) :
    Prop :=
  ∃ later, store.GrowsTo later ∧ later.IsTree ∧
    later.node? (destination here path).dropLast = some .directory ∧
    later.node? (destination here path) ≠ some .directory ∧
    last = later.put (destination here path) (.file (Text.encode text) now) ∧
    last.resolve here path = .ok (destination here path)

theorem persist_spec {name : List Char} {result : Except StoreError Unit} (isName : IsFileName name)
    (inCache : path = joinPath project.cacheDirectory name) (tree : store.IsTree)
    (directory : store.node? here = some .directory)
    (persisted : project.persist store here now path text = (last, result)) :
    (result = .ok () ∧ Wrote store here now path text last) ∨
      ((∃ error, result = .error error) ∧ store.GrowsTo last ∧ last.IsTree) := by
  unfold Project.persist at persisted
  cases made : store.makeDirectories here project.cacheDirectory with
  | error error =>
    simp only [made, Prod.mk.injEq] at persisted
    obtain ⟨rfl, rfl⟩ := persisted
    exact .inr ⟨⟨_, rfl⟩, .refl _, tree⟩
  | ok outcome =>
    obtain ⟨later, cache⟩ := outcome
    have way := Store.makeDirectories_spec tree directory made
    have place : destination here path = cache ++ [name] := by
      rw [inCache, destination_joinPath isName, way.destination]
      rfl
    have read : ((joinPath project.cacheDirectory name).reverse.takeWhile (· ≠ '/')).reverse = name :=
      baseOf_joinPath isName _
    simp only [made, inCache, read] at persisted
    cases wrote : later.writeText (cache ++ [name]) text now with
    | error error =>
      simp only [wrote, Prod.mk.injEq] at persisted
      obtain ⟨rfl, rfl⟩ := persisted
      exact .inr ⟨⟨_, rfl⟩, way.grows, way.tree⟩
    | ok written =>
      simp only [wrote, Prod.mk.injEq] at persisted
      obtain ⟨rfl, rfl⟩ := persisted
      obtain ⟨short, free, rfl⟩ := Store.writeText_ok wrote
      have short : byteLength name ≤ nameLimit := by simpa using short
      refine .inl ⟨rfl, later, way.grows, way.tree, ?_, ?_, ?_, ?_⟩
      · rw [place, List.dropLast_concat]
        exact way.directory
      · rwa [place]
      · rw [place]
      · rw [place, inCache]
        exact way.resolve isName short (keepsDirectories_put free)

/-! ## Compiling -/

/-- The ways in which compiling to a path can end: without an artifact, with one
    that is kept, or with one that was made and written. -/
inductive Handout (store : Store) (here : Location) (now : Time) (path : List Char) (kept : Prop)
    (made : Artifact → Prop) (outcome : Outcome (List Char)) : Prop where
  | failed (error : ProjectError) (result : outcome.result = .error error)
      (grows : store.GrowsTo outcome.store) (tree : outcome.store.IsTree)
  | kept (result : outcome.result = .ok path) (same : outcome.store = store) (kept : kept)
  | wrote (artifact : Artifact) (result : outcome.result = .ok path) (made : made artifact)
      (wrote : Wrote store here now path artifact.contents outcome.store)

theorem Handout.imp {kept : Prop} {made made' : Artifact → Prop} {outcome : Outcome (List Char)}
    (handout : Handout store here now path kept made outcome)
    (weaker : ∀ artifact, made artifact → made' artifact) :
    Handout store here now path kept made' outcome := by
  cases handout with
  | failed error result grows tree => exact .failed error result grows tree
  | kept result same holds => exact .kept result same holds
  | wrote artifact result made wrote => exact .wrote artifact result (weaker artifact made) wrote

theorem build_handout {name source : List Char} {origin : Origin} {done : Artifact → List Char}
    (isName : IsFileName name) (inCache : path = joinPath project.cacheDirectory name)
    (tree : store.IsTree) (directory : store.node? here = some .directory) (kept : Prop) :
    Handout store here now path kept
      (fun artifact => (project.compiler.build format source origin).2 = .ok artifact)
      (project.build store here now format source origin path done) := by
  unfold Project.build
  cases compiled : project.compiler.build format source origin with
  | mk events result =>
    cases result with
    | error error => exact .failed _ rfl (.refl _) tree
    | ok artifact =>
      simp only
      cases persisted : project.persist store here now path artifact.contents with
      | mk last result =>
        rcases persist_spec isName inCache tree directory persisted with
          ⟨rfl, wrote⟩ | ⟨⟨error, rfl⟩, grows, tree⟩
        · exact .wrote artifact rfl rfl wrote
        · exact .failed _ rfl grows tree

/-- A template is compiled unless its artifact is fresh. -/
theorem compileTemplate_handout (project : Project) (now : Time) (format : Format) (force : Bool)
    (name : List Char) (tree : store.IsTree) (directory : store.node? here = some .directory) :
    Handout store here now (project.artifactPath format name)
      (store.holdsFile here (project.templatePath name) = true ∧
        project.isStale store here (project.templatePath name) (project.artifactPath format name) =
          false)
      (fun artifact => ∃ source,
        store.readText here (project.templatePath name) = .ok source ∧
        (project.compiler.build format source
          (.file (project.locate name).directory (project.locate name).path)).2 = .ok artifact)
      (project.compileTemplate store here now format force name) := by
  unfold Project.compileTemplate
  simp only
  split
  · exact .failed _ rfl (.refl _) tree
  · rename_i there
    split
    · rename_i fresh
      simp only [Bool.and_eq_true, Bool.not_eq_true', Bool.not_eq_false] at there fresh
      exact .kept rfl rfl ⟨by simpa using there, fresh.2⟩
    · split
      · exact .failed _ rfl (.refl _) tree
      · rename_i source read
        have isName := isFileName_fileName (.template project.settings format name)
        exact (build_handout isName (artifactPath_eq project format name) tree directory _).imp
          fun artifact built => ⟨source, read, built⟩

/-- A text is compiled unless its artifact is there. -/
theorem compileString_handout (project : Project) (now : Time) (format : Format) (caller : Caller)
    (source : List Char) (tree : store.IsTree) (directory : store.node? here = some .directory) :
    Handout store here now (project.stringPath format source)
      (store.holdsFile here (project.stringPath format source) = true)
      (fun artifact =>
        (project.compiler.build format source (.string caller.file caller.line)).2 = .ok artifact)
      (project.compileString store here now format caller source) := by
  unfold Project.compileString
  simp only
  split
  · rename_i there
    exact .kept rfl rfl (Bool.and_eq_true_iff.1 there).2
  · exact build_handout (isFileName_fileName _) (stringPath_eq project format source) tree directory _

end Stencil
