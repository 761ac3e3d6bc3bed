import Stencil.Project.Basic

/-! # Building artifacts

An artifact is written when it is missing, older than its template, or when the
settings ask for it every time.

* `Outcome` — a changed store, the events on the way and the result;
* `isStale` — whether an artifact has to be written again;
* `compileTemplate` — the artifact of a named template;
* `compileString` — the artifact of a text.
-/

namespace Stencil

open Stencil.Program (Artifact Compiler Format)
open Stencil.Template (Origin)
open Stencil.Text (decimal)

/-- What an operation on a project leaves behind and yields. -/
structure Outcome (α : Type) where
  store : Store
  events : List Event := []
  result : Except ProjectError α

/-- The code that hands over a text: a line and a column of a file. -/
structure Caller where
  file : List Char
  line : Nat
  column : Nat
  deriving DecidableEq, Repr

/-- How events name a caller. -/
def Caller.render (caller : Caller) : List Char :=
  caller.file ++ ':' :: decimal caller.line ++ ':' :: decimal caller.column

namespace Project

/-- Whether the artifact of a template has to be written again. -/
def isStale (project : Project) (store : Store) (here : Location)
    (template artifact : List Char) : Bool :=
  project.settings.debug || !store.holdsFile here artifact ||
    -- Written in the same instant counts as fresh.
    match store.writtenAt? here template, store.writtenAt? here artifact with
    | some template, some artifact => artifact < template
    | _, _ => true

/-- Writes an artifact; its directory is made if it is missing. -/
def persist (project : Project) (store : Store) (here : Location) (now : Time)
    (path contents : List Char) : Store × Except StoreError Unit :=
  match store.makeDirectories here project.cacheDirectory with
  | .error error => (store, .error error)
  | .ok (store, cache) =>
    let name := (path.reverse.takeWhile (· ≠ '/')).reverse
    match store.writeText (cache ++ [name]) contents now with
    | .error error => (store, .error error)
    | .ok store => (store, .ok ())

/-- Compiles a source and writes the artifact. -/
def build (project : Project) (store : Store) (here : Location) (now : Time) (format : Format)
    (source : List Char) (origin : Origin) (path : List Char) (done : Artifact → List Char) :
    Outcome (List Char) :=
  match project.compiler.build format source origin with
  | (events, .error error) => { store, events, result := .error (.template error) }
  | (events, .ok artifact) =>
    match project.persist store here now path artifact.contents with
    | (store, .error error) => { store, events, result := .error (.writeFailed path error) }
    | (store, .ok ()) =>
      { store, events := events ++ [⟨.info, .host, done artifact⟩], result := .ok path }

/-- Compiles a named template, unless its artifact is fresh and nothing forces
    it.  Yields the path of the artifact. -/
def compileTemplate (project : Project) (store : Store) (here : Location) (now : Time)
    (format : Format) (force : Bool) (name : List Char) : Outcome (List Char) :=
  let location := project.locate name
  let template := project.templatePath name
  let path := project.artifactPath format name
  if !store.holdsFile here template then
    { store, result := .error (.templateNotFound template) }
  else if !force && !project.isStale store here template path then
    let fresh := "artifact for ".toList ++ name ++ " is fresh: ".toList ++ path
    { store, events := [⟨.debug, .host, fresh⟩], result := .ok path }
  else
    match store.readText here template with
    | .error error => { store, result := .error (.store error) }
    | .ok source =>
      project.build store here now format source (.file location.directory location.path) path
        fun artifact =>
          "compiled ".toList ++ name ++ " (".toList ++ decimal artifact.instructionCount ++
            " instructions) to ".toList ++ path

/-- Compiles a text, unless its artifact is there already.  Yields the path of the
    artifact. -/
def compileString (project : Project) (store : Store) (here : Location) (now : Time)
    (format : Format) (caller : Caller) (source : List Char) : Outcome (List Char) :=
  let path := project.stringPath format source
  if !project.settings.debug && store.holdsFile here path then { store, result := .ok path }
  else
    project.build store here now format source (.string caller.file caller.line) path
      fun _ => "compiled string from ".toList ++ caller.render ++ " to ".toList ++ path

end Project

end Stencil
