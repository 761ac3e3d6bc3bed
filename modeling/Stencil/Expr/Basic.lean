/-! # Expressions

An expression is code of the host language, possibly wrapped in the structure
that template syntax adds to it: modifiers, output escaping, ternaries and
function calls.  Only the leaves hold code.
-/

namespace Stencil

/-- A template expression. -/
inductive Expr where
  /-- Code of the host language. -/
  | code (text : List Char)
  /-- A function applied to `target`, with further arguments if it has any. -/
  | modifier (name : List Char) (target : Expr) (arguments : Option (List Char))
  /-- A value escaped for output in a character set. -/
  | escape (inner : Expr) (charset : List Char)
  /-- A choice between two values. -/
  | ternary (condition ifTrue ifFalse : Expr)
  /-- A call without arguments. -/
  | call (function : List Char)
  /-- A call with the text of its arguments. -/
  | callWith (function : List Char) (arguments : Expr)
  deriving DecidableEq, Repr, Inhabited

/-- The code of a leaf. -/
def Expr.code? : Expr → Option (List Char)
  | .code text => some text
  | _ => none

end Stencil
