import Stencil.Program.Artifact
import Stencil.Proofs.ResolveScan
import Stencil.Proofs.XmlDeclarations

/-! # Writing programs without a trap

Inert text is written between the XML declarations found in it, cut out at their
offsets.  Nothing else in a program is cut, so writing one is defined throughout.

* `scanNeutralize_eq` — markers are replaced by what is written for their group;
* `scanDeclarations` — a text with its declarations at their offsets;
* `scanArtifact_eq` — a program is written in every format without a trap.
-/

namespace Stencil.Php

open Stencil.Program (Instruction)
open Stencil.Text

/-! ## Code markers -/

/-- The groups of a code marker at the start of a text: the marker. -/
def markerGroups? : List Char → Option (List (List Char))
  | '<' :: '?' :: rest =>
    if startsWithPhp rest then some ['<' :: '?' :: rest.take 3]
    else if rest.head? = some '=' then some ["<?=".toList]
    else none
  | '?' :: '>' :: _ => some ["?>".toList]
  | _ => none

def writeMarker (groups : List (List Char)) : Except Trap (List Char) := do
  let marker ← item groups 0
  let letters := marker.map Char.toLower
  if letters = "<?php".toList then return "&lt;?php".toList
  else if letters = "<?=".toList then return "&lt;?=".toList
  else return "?&gt;".toList

def scanNeutralize (text : List Char) : Except Trap (List Char) :=
  replaceMatches markerGroups? writeMarker 0 text

theorem map_toLower_of_startsWithPhp {rest : List Char} (letters : startsWithPhp rest = true) :
    ('<' :: '?' :: rest.take 3).map Char.toLower = "<?php".toList := by
  unfold startsWithPhp at letters
  split at letters
  · simp only [Bool.and_eq_true, beq_iff_eq] at letters
    simp [letters]
  · cases letters

theorem replaceMatches_markers (skip : Nat) (text : List Char) :
    replaceMatches markerGroups? writeMarker skip text = .ok (neutralizeFrom skip text) := by
  fun_induction neutralizeFrom skip text with
  | case1 skip => cases skip <;> rfl
  | case2 skip _ rest ih => rw [replaceMatches, ih]
  | case3 rest php ih =>
    have groups : markerGroups? ('<' :: '?' :: rest) = some ['<' :: '?' :: rest.take 3] := by
      rw [markerGroups?, if_pos php]
    have writes : writeMarker ['<' :: '?' :: rest.take 3] = .ok "&lt;?php".toList :=
      if_pos (map_toLower_of_startsWithPhp php)
    have length : ('<' :: '?' :: rest.take 3).length - 1 = 4 := by
      have letters := congrArg List.length (map_toLower_of_startsWithPhp php)
      rw [List.length_map] at letters
      rw [letters]
      rfl
    rw [replaceMatches_some groups writes, length, ih]
    rfl
  | case4 rest other equals ih =>
    have groups : markerGroups? ('<' :: '?' :: rest) = some ["<?=".toList] := by
      rw [markerGroups?, if_neg other, if_pos equals]
    have writes : writeMarker ["<?=".toList] = .ok "&lt;?=".toList := rfl
    rw [replaceMatches_some groups writes]
    exact congrArg _ ih
  | case5 rest other plain ih =>
    have none : markerGroups? ('<' :: '?' :: rest) = none := by
      rw [markerGroups?, if_neg other, if_neg plain]
    rw [replaceMatches_none none, ih]
    rfl
  | case6 rest ih =>
    have groups : markerGroups? ('?' :: '>' :: rest) = some ["?>".toList] := rfl
    have writes : writeMarker ["?>".toList] = .ok "?&gt;".toList := rfl
    rw [replaceMatches_some groups writes]
    exact congrArg _ ih
  | case7 c rest opening closing ih =>
    have none : markerGroups? (c :: rest) = none := by
      unfold markerGroups?
      split <;> simp_all
    rw [replaceMatches_none none, ih]
    rfl

theorem scanNeutralize_eq (text : List Char) : scanNeutralize text = .ok (neutralize text) :=
  replaceMatches_markers 0 text

/-! ## Declarations -/

/-- An XML declaration of a text: its offsets, and its groups. -/
structure Declaration where
  start : Nat
  stop : Nat
  groups : List (List Char)
  deriving DecidableEq, Repr

/-- The XML declarations of a text at an offset, from left to right.  Their groups are
    all of a declaration, and its body. -/
def declarationsFrom (offset : Nat) (text : List Char) : List Declaration :=
  match _found : xmlDeclaration? text with
  | some (before, body, after) =>
    let whole := "<?xml".toList ++ (body ++ "?>".toList)
    let start := offset + byteLength before
    let stop := start + byteLength whole
    ⟨start, stop, [whole, body]⟩ :: declarationsFrom stop after
  | none => []
termination_by text.length
decreasing_by exact length_after_xmlDeclaration? _found

/-- Makes the text behind an offset inert, with some declarations. -/
def scanDeclarations (text : List Char) (last : Nat) : List Declaration → Except Trap (List Char)
  | [] => do
    let rest ← sliceFrom text last
    scanNeutralize rest
  | found :: others => do
    let before ← slice text last found.start
    let plain ← scanNeutralize before
    -- The first group is all of the declaration.
    let body ← item found.groups 1
    let printed ← scanNeutralize body
    let later ← scanDeclarations text found.stop others
    return plain ++ "<?php echo '<?xml ".toList ++ stripSlashes printed ++ " ?>'; ?>".toList ++ later

def scanSanitize (text : List Char) : Except Trap (List Char) :=
  scanDeclarations text 0 (declarationsFrom 0 text)

section Offsets

variable {text rest before body after : List Char} {offset : Nat}

theorem declarationsFrom_some (found : xmlDeclaration? rest = some (before, body, after)) :
    declarationsFrom offset rest =
      let whole := "<?xml".toList ++ (body ++ "?>".toList)
      let start := offset + byteLength before
      let stop := start + byteLength whole
      ⟨start, stop, [whole, body]⟩ :: declarationsFrom stop after := by
  rw [declarationsFrom]
  split
  · rename_i same
    cases found.symm.trans same
    rfl
  · simp_all

theorem declarationsFrom_none (none : xmlDeclaration? rest = none) :
    declarationsFrom offset rest = [] := by
  rw [declarationsFrom]
  split
  · simp_all
  · rfl

/-- The offsets of the declarations lie between characters, and their groups are
    there. -/
theorem scanDeclarations_eq (stands : StandsAt text offset rest) :
    scanDeclarations text offset (declarationsFrom offset rest) = .ok (sanitize rest) := by
  fun_induction sanitize rest generalizing offset with
  | case1 rest before body after found ih =>
    obtain ⟨inside, opened, closed⟩ := xmlDeclaration?_eq_some_iff.1 found
    have whole : rest = before ++ (("<?xml".toList ++ (body ++ "?>".toList)) ++ after) := by
      rw [← splitFirst?_append opened, ← splitFirst?_append closed]
      simp only [List.append_assoc]
    rw [declarationsFrom_some found]
    generalize "<?xml".toList ++ (body ++ "?>".toList) = declaration at whole
    subst whole
    simp only [scanDeclarations, stands.slice, scanNeutralize_eq, ok_bind, item,
      List.getElem?_cons_succ, List.getElem?_cons_zero, ih stands.behind.behind, pure_eq_ok]
  | case2 rest none =>
    rw [declarationsFrom_none none, scanDeclarations, stands.sliceFrom]
    exact scanNeutralize_eq rest

end Offsets

theorem scanSanitize_eq (text : List Char) : scanSanitize text = .ok (sanitize text) :=
  scanDeclarations_eq (standsAt_zero text)

/-! ## Programs -/

def scanInstruction : Instruction → Except Trap (List Char)
  | .text content => scanSanitize content
  | other => .ok (instruction other)

def scanInstructions : List Instruction → Except Trap (List Char)
  | [] => .ok []
  | first :: others => do
    let written ← scanInstruction first
    let later ← scanInstructions others
    return written ++ later

theorem scanInstructions_eq (instructions : List Instruction) :
    scanInstructions instructions = .ok (instructions.flatMap instruction) := by
  induction instructions with
  | nil => rfl
  | cons first others ih =>
    have written : scanInstruction first = .ok (instruction first) := by
      cases first with
      | text content => exact scanSanitize_eq content
      | _ => rfl
    rw [scanInstructions, written, ih]
    rfl

end Stencil.Php

namespace Stencil.Program

open Stencil.Php (safetyHeader joinBlocks doubleNewlines scanInstructions scanInstructions_eq)
open Stencil.Text

def scanArtifact (format : Format) (program : Program) : Except Trap (List Char) :=
  match format with
  | .php => do
    let body ← scanInstructions program.instructions
    return doubleNewlines (safetyHeader ++ joinBlocks body)
  | .json => .ok program.emitJson

theorem scanArtifact_eq (format : Format) (program : Program) :
    scanArtifact format program = .ok (format.emit program) := by
  cases format with
  | php =>
    rw [scanArtifact, scanInstructions_eq]
    rfl
  | json => rfl

end Stencil.Program
