import Stencil.Expr.Basic
import Stencil.Expr.Quoting
import Stencil.Text.Blank

/-! # Modifier chains

`base|f:x|g` applies `f` with the argument `x` to the base and then `g`.  A
pipe separates modifiers when it stands outside strings and next to no other
pipe, since `||` is the logical operator.

* `splitChain?` — the base and the modifiers of a chain, as written;
* `parseModifier` — the name and the arguments of one modifier;
* `composeModifiers` — the nested applications a chain stands for.
-/

namespace Stencil.Expr

open Stencil.Text (trim trimEnd)

/-- Cuts marked text at its separators.  `previous` is the character in front
    of the text. -/
def chainPieces (previous : Option Char) : List (Char × Bool) → List (List Char)
  | [] => [[]]
  | (c, outside) :: rest =>
    let pieces := chainPieces (some c) rest
    let lone := previous != some '|' && (rest.head?.map Prod.fst) != some '|'
    if c = '|' && outside && lone then [] :: pieces
    else
      match pieces with
      | [] => [[c]]
      | piece :: others => (c :: piece) :: others

/-- Whether the first pipe outside strings stands directly before another one.
    Without any such pipe there is no chain either. -/
def startsWithOr : List (Char × Bool) → Bool
  | [] => true
  | (c, outside) :: rest =>
    if c = '|' && outside then (rest.head?.map Prod.fst) == some '|' else startsWithOr rest

/-- The base and the modifiers of a chain.  An expression without a pipe, or
    whose first pipe belongs to `||`, is no chain. -/
def splitChain? (text : List Char) : Option (List Char × List (List Char)) :=
  let marked := mark text
  if startsWithOr marked then none
  else
    match chainPieces none marked with
    | base :: modifiers => some (base, modifiers)
    | [] => none

/-- Splits at the first colon that is not half of a `::`. -/
def splitColon? : List Char → Option (List Char × List Char)
  | [] => none
  | ':' :: ':' :: rest =>
    (splitColon? rest).map fun (name, arguments) => (':' :: ':' :: name, arguments)
  | c :: rest =>
    if c = ':' then some ([], rest)
    else (splitColon? rest).map fun (name, arguments) => (c :: name, arguments)

/-- The name of a modifier, and its arguments if a colon introduces them. -/
def parseModifier (written : List Char) : List Char × Option (List Char) :=
  let trimmed := trim written
  match splitColon? trimmed with
  | some (name, arguments) => (trimEnd name, some arguments)
  | none => (trimmed, none)

/-- Applies one modifier as written. -/
def applyModifier (target : Expr) (written : List Char) : Expr :=
  let (name, arguments) := parseModifier written
  .modifier name target arguments

/-- The expression a text stands for, with its modifiers nested so that the
    first one is innermost. -/
def composeModifiers (text : List Char) : Expr :=
  match splitChain? text with
  | none => .code text
  | some (base, modifiers) => modifiers.foldl applyModifier (.code (trimEnd base))

/-! ## Laws -/

/-- A split keeps every character but the colon. -/
theorem splitColon?_append {written name arguments : List Char}
    (split : splitColon? written = some (name, arguments)) : name ++ ':' :: arguments = written := by
  fun_induction splitColon? written generalizing name with
  | case1 => cases split
  | case2 rest ih =>
    obtain ⟨⟨before, behind⟩, found, same⟩ := Option.map_eq_some_iff.1 split
    cases same
    rw [← ih found, List.cons_append, List.cons_append]
  | case3 =>
    obtain ⟨rfl, rfl⟩ := Prod.mk.inj (Option.some.inj split)
    rfl
  | case4 c rest _ _ ih =>
    obtain ⟨⟨before, behind⟩, found, same⟩ := Option.map_eq_some_iff.1 split
    cases same
    rw [← ih found, List.cons_append]

/-- The arguments are the end of what is written. -/
theorem splitColon?_suffix {written name arguments : List Char}
    (split : splitColon? written = some (name, arguments)) : arguments <:+ written :=
  ⟨name ++ [':'], by rw [← splitColon?_append split, List.append_assoc, List.singleton_append]⟩

end Stencil.Expr
