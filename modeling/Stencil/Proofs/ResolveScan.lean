import Stencil.Proofs.ModifierScan
import Stencil.Proofs.Names
import Stencil.Proofs.SubscriptScan

/-! # Resolving expressions without a trap

Placeholders are replaced match by match, and what is written for a match takes
its groups by their numbers.

* `replaceMatches` — the matches of a pattern replaced from left to right;
* `scanBindings_eq` — placeholders get their level without a trap;
* `scanResolve_eq` — and so an expression is resolved.
-/

namespace Stencil.Text

/-- Replaces the matches of a pattern from left to right by what is written for
    their groups.  `skip` counts the characters of the match just replaced that still
    have to be passed. -/
def replaceMatches (groups? : List Char → Option (List (List Char)))
    (write : List (List Char) → Except Trap (List Char)) : Nat → List Char → Except Trap (List Char)
  | _, [] => .ok []
  | skip + 1, _ :: rest => replaceMatches groups? write skip rest
  | 0, c :: rest =>
    match groups? (c :: rest) with
    | some groups => do
      let whole ← item groups 0
      let written ← write groups
      let later ← replaceMatches groups? write (whole.length - 1) rest
      return written ++ later
    | none => do
      let later ← replaceMatches groups? write 0 rest
      return c :: later

section Matches

variable {groups? : List Char → Option (List (List Char))}
  {write : List (List Char) → Except Trap (List Char)} {groups : List (List Char)}
  {whole written rest : List Char} {c : Char}

theorem replaceMatches_some (found : groups? (c :: rest) = some (whole :: groups))
    (writes : write (whole :: groups) = .ok written) :
    replaceMatches groups? write 0 (c :: rest) =
      (written ++ ·) <$> replaceMatches groups? write (whole.length - 1) rest := by
  rw [replaceMatches, found]
  simp only [item, List.getElem?_cons_zero, ok_bind, writes]
  rfl

theorem replaceMatches_none (other : groups? (c :: rest) = none) :
    replaceMatches groups? write 0 (c :: rest) =
      (c :: ·) <$> replaceMatches groups? write 0 rest := by
  rw [replaceMatches, other]
  rfl

theorem replaceMatches_append (whole rest : List Char) :
    replaceMatches groups? write whole.length (whole ++ rest) =
      replaceMatches groups? write 0 rest := by
  induction whole with
  | nil => rfl
  | cons c whole ih =>
    rw [List.length_cons, List.cons_append, replaceMatches]
    exact ih

end Matches

end Stencil.Text

namespace Stencil.Expr

open Stencil.Text

/-! ## Placeholders -/

/-- The groups of a placeholder at the start of a text: all of it, and its name. -/
def bindingGroups? : List Char → Option (List (List Char))
  | [] => none
  | c :: rest => (if c = '$' then bindingAt? rest else none).map fun name => [c :: name, name]

def scanBindings (level : Nat) (text : List Char) : Except Trap (List Char) :=
  if 0 < level then
    replaceMatches bindingGroups?
      (fun groups => do
        let name ← item groups 1
        return '$' :: name ++ decimal level)
      0 text
  else .ok text

theorem bindingAt?_eq_some {text name : List Char} (found : bindingAt? text = some name) :
    name ≠ [] ∧ ∃ rest, text = name ++ rest := by
  have listed := List.mem_of_find?_eq_some found
  have begins := List.find?_some found
  refine ⟨?_, ?_⟩
  · rintro rfl
    revert listed
    decide
  · cases stripped : stripStart? name text with
    | none => simp [stripped] at begins
    | some rest => exact ⟨rest, (isPrefixOf?_eq_some_iff.1 stripped).symm⟩

theorem scanBindings_eq (level : Nat) (text : List Char) :
    scanBindings level text = .ok (renameBindings level text) := by
  rw [scanBindings, renameBindings]
  by_cases outside : level = 0
  · simp [outside]
  rw [if_pos (Nat.pos_of_ne_zero outside), if_neg outside]
  -- A placeholder is passed as a whole, so the induction is on the length.
  induction length : text.length using Nat.strong_induction_on generalizing text with
  | _ _ ih =>
    subst length
    cases text with
    | nil => rfl
    | cons c rest =>
      cases found : (if c = '$' then bindingAt? rest else none) with
      | none =>
        have other : bindingGroups? (c :: rest) = none := by rw [bindingGroups?, found, Option.map_none]
        rw [replaceMatches_none other, ih rest.length (Nat.lt_succ_self _) rest rfl, renameFrom, found]
        rfl
      | some name =>
        obtain ⟨rfl, binding⟩ := Option.ite_none_right_eq_some.1 found
        obtain ⟨filled, after, rfl⟩ := bindingAt?_eq_some binding
        have groups : bindingGroups? ('$' :: (name ++ after)) = some ['$' :: name, name] := by
          rw [bindingGroups?, found, Option.map_some]
        rw [replaceMatches_some groups rfl, List.length_cons, Nat.add_sub_cancel, replaceMatches_append,
          ih after.length (by simp only [List.length_cons, List.length_append]; omega) after rfl,
          renameFrom, found]
        simp [renameFrom_name _ filled]

/-! ## All steps -/

def scanResolve (text : List Char) (level : Nat) (charset? : Option (List Char)) :
    Except Trap Resolved := do
  let renamed ← scanBindings level text
  if hasVariable renamed then
    let quoted ← scanSubscripts renamed 0 none false [] 0
    let assigning ← scanAssignment quoted
    let expr ← scanModifiers quoted
    let escaped := match charset? with
      | some charset => if assigning then expr else .escape expr charset
      | none => expr
    return ⟨escaped, true, assigning⟩
  else return ⟨.code renamed, false, false⟩

theorem scanResolve_eq (text : List Char) (level : Nat) (charset? : Option (List Char)) :
    scanResolve text level charset? = .ok (resolve text level charset?) := by
  simp only [scanResolve, resolve, scanBindings_eq, scanSubscripts_eq, scanAssignment_eq,
    scanModifiers_eq, ok_bind]
  split <;> rfl

end Stencil.Expr
