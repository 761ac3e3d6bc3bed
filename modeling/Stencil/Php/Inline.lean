import Stencil.Php.Literal

/-! # Text made inert

Literal template text is printed as it stands, so it must not switch into host
code.  The markers that begin or end code are written with character entities,
and an XML declaration, which looks like code, is printed by an `echo`.
-/

namespace Stencil.Php

open Stencil.Text (splitFirst? splitFirst?_append)

/-- Whether a text begins with the letters of the code marker, in any case. -/
def startsWithPhp : List Char → Bool
  | p :: h :: q :: _ => p.toLower == 'p' && h.toLower == 'h' && q.toLower == 'p'
  | _ => false

/-- Writes code markers with entities.  `skip` counts the characters of the
    marker just written that still have to be passed. -/
def neutralizeFrom : Nat → List Char → List Char
  | _, [] => []
  | skip + 1, _ :: rest => neutralizeFrom skip rest
  | 0, '<' :: '?' :: rest =>
    if startsWithPhp rest then "&lt;?php".toList ++ neutralizeFrom 4 ('?' :: rest)
    else if rest.head? = some '=' then "&lt;?=".toList ++ neutralizeFrom 2 ('?' :: rest)
    else '<' :: neutralizeFrom 0 ('?' :: rest)
  | 0, '?' :: '>' :: rest => "?&gt;".toList ++ neutralizeFrom 1 ('>' :: rest)
  | 0, c :: rest => c :: neutralizeFrom 0 rest

/-- Writes the markers that begin or end code with entities. -/
def neutralize (text : List Char) : List Char := neutralizeFrom 0 text

/-- The body of the first XML declaration of a text, with the text before and
    after it. -/
def xmlDeclaration? (text : List Char) : Option (List Char × List Char × List Char) := do
  let (before, inside) ← splitFirst? "<?xml".toList text
  let (body, after) ← splitFirst? "?>".toList inside
  return (before, body, after)

theorem length_after_xmlDeclaration? {text before body after : List Char}
    (found : xmlDeclaration? text = some (before, body, after)) :
    after.length < text.length := by
  simp only [xmlDeclaration?, Option.bind_eq_bind, Option.bind_eq_some_iff] at found
  obtain ⟨⟨start, inside⟩, opened, ⟨middle, rest⟩, closed, same⟩ := found
  simp only [Option.pure_def, Option.some.injEq, Prod.mk.injEq] at same
  obtain ⟨rfl, rfl, rfl⟩ := same
  have outer := congrArg List.length (splitFirst?_append opened)
  have inner := congrArg List.length (splitFirst?_append closed)
  simp only [List.length_append] at outer inner
  have : ("<?xml".toList).length = 5 := rfl
  omega

/-- Makes text inert. -/
def sanitize (text : List Char) : List Char :=
  match _found : xmlDeclaration? text with
  | some (before, body, after) =>
    neutralize before ++ "<?php echo '<?xml ".toList ++ stripSlashes (neutralize body) ++
      " ?>'; ?>".toList ++ sanitize after
  | none => neutralize text
termination_by text.length
decreasing_by exact length_after_xmlDeclaration? _found

end Stencil.Php
