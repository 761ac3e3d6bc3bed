import Stencil.Diagnostic.Render
import Stencil.Program.Compile
import Stencil.Template.LineEnding

/-! # Checking templates

A template that does not compile is reported with the place of the offending tag
and, if a block was not closed, with the tag that would close it.
-/

namespace Stencil.Command

open Stencil.Program (Compiler)
open Stencil.Template (TemplateError normalizeLineEndings)

/-- What is written beside the offending tag. -/
def label : TemplateError → List Char
  | .unclosed block _ _ => "this ".toList ++ block.openTag ++ " is never closed".toList
  | _ => "no matching opener".toList

/-- What is advised. -/
def notes : TemplateError → List (List Char)
  | .unclosed block _ _ => ["add ".toList ++ block.closeTag]
  | _ => []

/-- The report on an error in a source. -/
def report (path source : List Char) (error : TemplateError) : List Char :=
  match error.span? with
  | none => "error[".toList ++ error.code ++ "]: ".toList ++ error.message
  | some span =>
    let diagnostic : Diagnostic :=
      { source := normalizeLineEndings source
        path
        code := error.code
        message := error.message
        span
        label := label error
        notes := notes error }
    diagnostic.renderPlain

/-- A path that is given from its end, without the slashes and the parts of a dot there.
    A dot at the start of the path stays. -/
def trimEnd : List Char → List Char
  | '/' :: rest => trimEnd rest
  | '.' :: '/' :: rest => trimEnd rest
  | rest => rest

/-- The directory of a path, with a slash at its end. -/
def directoryOf (path : List Char) : List Char :=
  let parts := trimEnd path.reverse
  let folder := parts.dropWhile (· ≠ '/')
  if folder.isEmpty then [] else (trimEnd folder).reverse ++ ['/']

/-- Compiles a source and reports on its error, if there is one. -/
def checkSource (compiler : Compiler) (path source : List Char) :
    List Event × Option (List Char) :=
  let compilation := compiler.compile source (.file (directoryOf path) path)
  match compilation.result with
  | .ok _ => (compilation.events, none)
  | .error error => (compilation.events, some (report path source error))

end Stencil.Command
