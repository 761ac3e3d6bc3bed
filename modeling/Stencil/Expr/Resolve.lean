import Stencil.Expr.Modifier
import Stencil.Expr.Subscript
import Stencil.Text.Search
import Stencil.Text.Utf8

/-! # Resolving template expressions

What a template writes between braces becomes host code in four steps: the
placeholders of the enclosing loop get its level, subscripts are quoted,
modifiers are nested, and a value that is printed is escaped if asked to.

* `renameBindings` — `$key`, `$value` and `$counter` at a loop level;
* `isAssignment` — whether the expression assigns instead of yielding a value;
* `resolve` — all steps together.
-/

namespace Stencil.Expr

open Stencil.Text

/-! ## Loop placeholders -/

/-- The names that stand for what the innermost loop binds. -/
def bindingNames : List (List Char) := ["key".toList, "value".toList, "counter".toList]

/-- The placeholder name at the start of a text, if a word ends after it. -/
def bindingAt? (text : List Char) : Option (List Char) :=
  bindingNames.find? fun name =>
    match stripStart? name text with
    | some rest => !(rest.head?.map isWord).getD false
    | none => false

/-- Puts `suffix` behind every placeholder.  `pending` counts the characters of
    a placeholder that are still to be copied. -/
def renameFrom (suffix : List Char) : Nat → List Char → List Char
  | _, [] => []
  | 0, c :: rest =>
    match (if c = '$' then bindingAt? rest else none) with
    | some name => c :: renameFrom suffix name.length rest
    | none => c :: renameFrom suffix 0 rest
  | 1, c :: rest => c :: suffix ++ renameFrom suffix 0 rest
  | pending + 2, c :: rest => c :: renameFrom suffix (pending + 1) rest

/-- Gives the placeholders of a text the level of the loop they belong to;
    outside loops there is none. -/
def renameBindings (level : Nat) (text : List Char) : List Char :=
  if level = 0 then text else renameFrom (decimal level) 0 text

/-! ## Variables and assignments -/

/-- Whether a variable, a `$` before a name, occurs in the text. -/
def hasVariable : List Char → Bool
  | [] => false
  | c :: rest => (c == '$' && startsName rest) || hasVariable rest

/-- Whether an equals sign outside strings assigns, going through marked text.
    Next to `=`, `!`, `<` or `>` on the left or `=` or `>` on the right it is
    part of another operator.  `previous` is the character in front. -/
def assigns (previous : Option Char) : List (Char × Bool) → Bool
  | [] => false
  | (c, outside) :: rest =>
    let comparesLeft := (previous.map ['=', '!', '<', '>'].contains).getD false
    let comparesRight := (rest.head?.map fun next => ['=', '>'].contains next.1).getD false
    (c == '=' && outside && !comparesLeft && !comparesRight) || assigns (some c) rest

/-- Whether an expression assigns. -/
def isAssignment (text : List Char) : Bool := assigns none (mark text)

/-! ## Resolution -/

/-- A resolved expression, and what was seen in it. -/
structure Resolved where
  expr : Expr
  hasVariable : Bool
  isAssignment : Bool
  deriving DecidableEq, Repr

/-- Whether the expression yields a value to print. -/
def Resolved.isOutput (resolved : Resolved) : Bool :=
  resolved.hasVariable && !resolved.isAssignment

/-- Resolves an expression inside `level` loops.  A value is escaped for
    `charset?` if one is given; text without a variable is code as it stands. -/
def resolve (text : List Char) (level : Nat) (charset? : Option (List Char)) : Resolved :=
  let renamed := renameBindings level text
  if hasVariable renamed then
    let quoted := quoteSubscripts renamed
    let assigning := isAssignment quoted
    let expr := composeModifiers quoted
    let escaped := match charset? with
      | some charset => if assigning then expr else .escape expr charset
      | none => expr
    ⟨escaped, true, assigning⟩
  else ⟨.code renamed, false, false⟩

end Stencil.Expr
