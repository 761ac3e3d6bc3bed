import Stencil.Program.Artifact
import Stencil.Settings.Basic
import Stencil.Store.Path

/-! # Projects

A project is a directory with templates and a cache of compiled artifacts.
Artifacts are kept under the name of the template and a digest of its directory
and of the settings, so settings that matter lead to other files.

* `Project` — a root with settings and custom tags;
* `locate` — where a template lies;
* `artifactPath` / `stringPath` — where artifacts lie;
* `ProjectError` — what can go wrong.
-/

namespace Stencil

open Stencil.Program (Compiler Format)
open Stencil.Tag (Registry)
open Stencil.Template (TemplateError)
open Stencil.Text (bytes)

/-- A directory with templates and a cache. -/
structure Project where
  root : List Char
  settings : Settings
  registry : Registry := .empty

/-- Where a template lies: its directory, with a slash at the end, and its path. -/
structure TemplateLocation where
  directory : List Char
  path : List Char
  deriving DecidableEq, Repr

/-- What can go wrong with a project. -/
inductive ProjectError where
  | templateNotFound (path : List Char)
  | writeFailed (path : List Char) (cause : StoreError)
  | template (error : TemplateError)
  | store (error : StoreError)
  deriving DecidableEq, Repr

/-- The message of an error. -/
def ProjectError.message : ProjectError → List Char
  | .templateNotFound path => "template not found: ".toList ++ path
  | .writeFailed path _ => "failed to write artifact ".toList ++ path
  | .template error => error.message
  | .store error => error.message

/-- The cause behind an error. -/
def ProjectError.cause? : ProjectError → Option (List Char)
  | .writeFailed _ cause => some cause.message
  | _ => none

namespace Project

/-- The compiler with the settings of the project. -/
def compiler (project : Project) : Compiler :=
  ⟨project.settings.compileOptions, project.registry⟩

/-- The directory of artifacts. -/
def cacheDirectory (project : Project) : List Char :=
  joinPath project.root project.settings.cacheDir

/-- Where the template of a name lies: in the directory of templates, unless the
    name starts with a slash. -/
def locate (project : Project) (name : List Char) : TemplateLocation :=
  let base := (name.reverse.takeWhile (· ≠ '/')).reverse
  let folder := name.take (name.length - base.length)
  let directory :=
    if name.head? = some '/' then folder else project.settings.templateDir ++ folder
  ⟨directory, directory ++ base ++ '.' :: project.settings.extension⟩

/-- The path of a template. -/
def templatePath (project : Project) (name : List Char) : List Char :=
  joinPath project.root (project.locate name).path

/-- The name that a template has in the cache. -/
def cacheName (name : List Char) : List Char :=
  Text.replaceChar '/' ['.'] (name.dropWhile (· = '/'))

/-- The path of the artifact of a named template. -/
def artifactPath (project : Project) (format : Format) (name : List Char) : List Char :=
  let directory := (project.locate name).directory
  let digest := Digest.sha256Hex (bytes directory ++ bytes project.settings.checksum)
  joinPath project.cacheDirectory
    (cacheName name ++ '.' :: digest.take 8 ++ '.' :: format.extension)

/-- The path of the artifact of a text. -/
def stringPath (project : Project) (format : Format) (source : List Char) : List Char :=
  let digest := Digest.sha256Hex (bytes source ++ bytes project.settings.checksum)
  joinPath project.cacheDirectory (digest ++ ".s.".toList ++ format.extension)

end Project

end Stencil
