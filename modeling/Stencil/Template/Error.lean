import Stencil.Source.Span
import Stencil.Text.Utf8

/-! # Template errors

A template is rejected when its blocks are not balanced, a custom tag when its
pattern cannot be read.

* `CompileOptions` — the switches of the compiler;
* `Origin` — where a template comes from, and how messages name it;
* `TemplateError` — the causes, with their codes, spans and messages.
-/

namespace Stencil.Template

open Stencil.Source (Span)
open Stencil.Text (decimal)

/-- The switches of the compiler. -/
structure CompileOptions where
  /-- Recognise built-in tags in any letter case. -/
  caseInsensitiveTags : Bool := false
  /-- Let raw code through instead of ignoring it. -/
  allowRawCode : Bool := false
  /-- Drop HTML comments. -/
  stripComments : Bool := false
  /-- Escape values where no autoescape block says otherwise. -/
  autoEscape : Bool := false
  charset : List Char := "UTF-8".toList
  /-- What is taken off a template's directory to resolve its includes. -/
  templateDir : List Char := []
  deriving DecidableEq, Repr, Inhabited

/-- Where a template comes from. -/
inductive Origin where
  /-- A file, with its directory up to and including the last slash. -/
  | file (directory path : List Char)
  /-- A text handed over by the code at a line of a file. -/
  | string (callerFile : List Char) (callerLine : Nat)
  deriving DecidableEq, Repr

/-- The directory of a template, empty for one that is no file. -/
def Origin.directory : Origin → List Char
  | .file directory _ => directory
  | .string _ _ => []

/-- How messages name the template. -/
def Origin.render : Origin → List Char
  | .file _ path => path
  | .string callerFile callerLine =>
    "the string loaded by ".toList ++ callerFile ++ " at line ".toList ++
      decimal callerLine

/-- The block constructs whose nesting is checked. -/
inductive Block where
  | loop
  | conditional
  deriving DecidableEq, Repr

/-- The tag that opens a block, as messages show it. -/
def Block.openTag : Block → List Char
  | .loop => "\x7bloop\x7d".toList
  | .conditional => "\x7bif\x7d".toList

/-- The tag that closes a block. -/
def Block.closeTag : Block → List Char
  | .loop => "\x7b/loop\x7d".toList
  | .conditional => "\x7b/if\x7d".toList

/-- Why a template or a custom tag is rejected. -/
inductive TemplateError where
  /-- The block opened at the span is still open at the end. -/
  | unclosed (block : Block) (origin : Origin) (span : Span)
  /-- The tag at the span closes a block that is not open. -/
  | unexpectedClose (block : Block) (origin : Origin) (span : Span)
  /-- The engine refuses the pattern of the named tag, for a reason in its own words. -/
  | invalidPattern (name reason : List Char)
  deriving DecidableEq, Repr

namespace TemplateError

/-- The code of an error in diagnostics. -/
def code : TemplateError → List Char
  | .unclosed .. => "M100".toList
  | .unexpectedClose .. => "M101".toList
  | .invalidPattern .. => "M200".toList

/-- The span of the offending tag. -/
def span? : TemplateError → Option Span
  | .unclosed _ _ span | .unexpectedClose _ _ span => some span
  | .invalidPattern .. => none

/-- The template an error is about. -/
def origin? : TemplateError → Option Origin
  | .unclosed _ origin _ | .unexpectedClose _ origin _ => some origin
  | .invalidPattern .. => none

/-- The block an error is about. -/
def block? : TemplateError → Option Block
  | .unclosed block _ _ | .unexpectedClose block _ _ => some block
  | .invalidPattern .. => none

/-- The message of an error. -/
def message : TemplateError → List Char
  | .unclosed block origin _ =>
    "unclosed ".toList ++ block.openTag ++ " tag in ".toList ++ origin.render
  | .unexpectedClose block origin _ =>
    "unexpected ".toList ++ block.closeTag ++ " in ".toList ++ origin.render ++
      ": no open ".toList ++ block.openTag ++ " tag".toList
  | .invalidPattern name reason =>
    "invalid pattern for custom tag '".toList ++ name ++ "': ".toList ++ reason

end TemplateError

end Stencil.Template
