import Stencil.Template.Token

/-! # Quoted strings in expressions

Operators of the expression syntax count only outside quoted strings.  Inside a
string a backslash takes the next character with it, so an escaped quote does
not end the string.

* `Quoting.next` — how one character moves the scanner;
* `mark` — each character with whether it stands outside every string.
-/

namespace Stencil.Expr

open Stencil.Template (isQuote)

/-- Where the scanner stands. -/
inductive Quoting where
  /-- Outside every string. -/
  | outside
  /-- In a string opened by `quote`. -/
  | inside (quote : Char)
  /-- Behind a backslash in a string opened by `quote`. -/
  | escaped (quote : Char)
  deriving DecidableEq, Repr

/-- Moves the scanner over one character. -/
def Quoting.next : Quoting → Char → Quoting
  | .outside, c => if isQuote c then .inside c else .outside
  | .inside quote, c =>
    if c = '\\' then .escaped quote else if c = quote then .outside else .inside quote
  | .escaped quote, _ => .inside quote

/-- Pairs every character with whether it stands outside all strings.  The
    quotes themselves count as part of their string. -/
def markFrom (state : Quoting) : List Char → List (Char × Bool)
  | [] => []
  | c :: rest => (c, state == .outside && !isQuote c) :: markFrom (state.next c) rest

/-- The marking of a text that begins outside every string. -/
def mark (text : List Char) : List (Char × Bool) := markFrom .outside text

/-- Marking keeps the characters. -/
@[simp] theorem map_fst_markFrom (state : Quoting) (text : List Char) :
    (markFrom state text).map Prod.fst = text := by
  induction text generalizing state with
  | nil => rfl
  | cons c rest ih => simp [markFrom, ih]

theorem map_fst_mark (text : List Char) : (mark text).map Prod.fst = text :=
  map_fst_markFrom .outside text

theorem head?_mark (text : List Char) : (mark text).head?.map Prod.fst = text.head? := by
  rw [← List.head?_map, map_fst_mark]

end Stencil.Expr
