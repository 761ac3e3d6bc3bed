import Stencil.Digest.Sha256
import Stencil.Json.Printer
import Stencil.Template.Error

/-! # Settings

What a project can set: where templates and compiled artifacts lie, and how
templates are compiled.

* `Settings.normalized` — both directories with a slash at the end;
* `Settings.toJson` — the settings as a record, in order;
* `Settings.checksum` — a digest that tells settings apart;
* `Settings.compileOptions` — what the compiler gets to know.
-/

namespace Stencil

open Stencil.Template (CompileOptions)

/-- The settings of a project. -/
structure Settings where
  templateDir : List Char := "templates/".toList
  cacheDir : List Char := "cache/".toList
  extension : List Char := "html".toList
  /-- Compile again even if the artifact is fresh. -/
  debug : Bool := false
  tagsIgnoreCase : Bool := false
  allowRawCode : Bool := false
  removeComments : Bool := false
  autoEscape : Bool := false
  charset : List Char := "UTF-8".toList
  deriving DecidableEq, Repr, Inhabited

namespace Settings

/-- A directory with a slash at its end, unless it is empty. -/
def withTrailingSlash (directory : List Char) : List Char :=
  if directory.isEmpty || directory.getLast? == some '/' then directory else directory ++ ['/']

/-- The settings with directories that can be put in front of names. -/
def normalized (settings : Settings) : Settings :=
  { settings with
    templateDir := withTrailingSlash settings.templateDir
    cacheDir := withTrailingSlash settings.cacheDir }

/-- The settings as a record. -/
def toJson (settings : Settings) : Json :=
  .object
    [("template_dir".toList, .string settings.templateDir),
     ("cache_dir".toList, .string settings.cacheDir),
     ("extension".toList, .string settings.extension),
     ("debug".toList, .bool settings.debug),
     ("tags_icase".toList, .bool settings.tagsIgnoreCase),
     ("allow_php".toList, .bool settings.allowRawCode),
     ("remove_comments".toList, .bool settings.removeComments),
     ("auto_escape".toList, .bool settings.autoEscape),
     ("charset".toList, .string settings.charset)]

/-- A digest of all settings. -/
def checksum (settings : Settings) : List Char :=
  Digest.sha256Hex (Text.bytes settings.toJson.compact)

/-- The switches of the compiler. -/
def compileOptions (settings : Settings) : CompileOptions where
  caseInsensitiveTags := settings.tagsIgnoreCase
  allowRawCode := settings.allowRawCode
  stripComments := settings.removeComments
  autoEscape := settings.autoEscape
  charset := settings.charset
  templateDir := settings.templateDir

end Settings

end Stencil
