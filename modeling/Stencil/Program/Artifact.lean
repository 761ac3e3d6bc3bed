import Stencil.Php.Emit
import Stencil.Program.Compile
import Stencil.Program.Json

/-! # Artifacts

An artifact is the whole text of a compiled template in one of the output
formats.  It is built entirely or not at all.
-/

namespace Stencil.Program

open Stencil.Template (Origin TemplateError)

/-- The formats in which a program can be written. -/
inductive Format where
  | php
  | json
  deriving DecidableEq, Repr

/-- The text of a program. -/
def Format.emit : Format → Program → List Char
  | .php, program => Php.emit program
  | .json, program => program.emitJson

/-- The end of the names of files that hold artifacts. -/
def Format.extension : Format → List Char
  | .php => "mtpl.php".toList
  | .json => "mtpl.json".toList

/-- The text of a compiled template, and how many instructions it has. -/
structure Artifact where
  contents : List Char
  instructionCount : Nat
  deriving DecidableEq, Repr

/-- The artifact of a program. -/
def Artifact.ofProgram (format : Format) (program : Program) : Artifact :=
  ⟨format.emit program, program.instructions.length⟩

/-- Compiles a template and writes the program, with the events on the way. -/
def Compiler.build (compiler : Compiler) (format : Format) (source : List Char) (origin : Origin) :
    List Event × Except TemplateError Artifact :=
  let compilation := compiler.compile source origin
  (compilation.events, compilation.result.map (Artifact.ofProgram format))

end Stencil.Program
