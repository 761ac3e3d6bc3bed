import Stencil.Expr.Basic
import Stencil.Tag.Custom

/-! # Compiled programs

A compiled template is a flat list of instructions.  Blocks are opened and
closed by instructions of their own; values are expressions.
-/

namespace Stencil.Program

open Stencil.Tag (TagMatches)
open Stencil.Text (decimal)

/-- What a loop goes over. -/
inductive LoopSource where
  /-- A variable that is gone over as it is. -/
  | direct (code : List Char)
  /-- A value that is computed and named first. -/
  | computed (expr : Expr)
  deriving DecidableEq, Repr

/-- The header of a loop: its depth, from one, and the names it binds. -/
structure Loop where
  level : Nat
  source : LoopSource
  key : List Char
  value : List Char
  deriving DecidableEq, Repr

/-- The variable that counts the rounds of a loop. -/
def Loop.counter (loop : Loop) : List Char := "$counter".toList ++ decimal loop.level

/-- The template that is included. -/
inductive IncludeTarget where
  /-- A path known when the template is compiled. -/
  | fixed (path : List Char)
  /-- A folder and a path that is computed when the template runs. -/
  | dynamic (folder : List Char) (path : Expr)
  deriving DecidableEq, Repr

/-- One step of a compiled template. -/
inductive Instruction where
  /-- Text that is printed as it stands. -/
  | text (content : List Char)
  /-- A value that is printed. -/
  | output (expr : Expr)
  /-- Code that is run for its effect. -/
  | statement (expr : Expr)
  | loopOpen (header : Loop)
  | loopClose
  | loopBreak
  | loopContinue
  | ifOpen (condition : Expr)
  | elseIf (condition : Expr)
  | otherwise
  | ifClose
  | rawCodeOpen
  | rawCodeClose
  /-- A remark left in the compiled template. -/
  | notice (message : List Char)
  | inclusion (target : IncludeTarget)
  /-- A custom tag with what its pattern matched. -/
  | customTag (name : List Char) (tagMatches : TagMatches)
  deriving DecidableEq, Repr

end Stencil.Program

namespace Stencil

/-- A compiled template. -/
structure Program where
  instructions : List Program.Instruction
  deriving DecidableEq, Repr

end Stencil
