import Mathlib.Data.List.Chain
import Stencil.Proofs.HostReading

/-! # Where an artifact differs from its parts

Joining blocks and doubling newlines go over the whole text of an artifact.  A
program is a row of stretches, code and inert text in turn, and both replacements
can be done stretch by stretch.  What they change beyond that lies where one stretch
closes a block and the next one opens a block or begins with a newline.

* `stretches` — code and inert text of a program, in order;
* `Seamed` — a row of texts as one text, changed at its seams only;
* `emit_at_seams` — the stretches of an artifact.
-/

namespace Stencil.Php

open Stencil.Program (Instruction)
open Stencil.Text

/-! ## Stretches of a program -/

/-- Code with its markers, or inert text. -/
inductive Stretch where
  | code (text : List Char)
  | inert (text : List Char)
  deriving DecidableEq, Repr

def Stretch.text : Stretch → List Char
  | .code text | .inert text => text

def Stretch.isInert : Stretch → Bool
  | .code _ => false
  | .inert _ => true

/-- Inert text goes on in the inert text behind it. -/
def prependInert (text : List Char) : List Stretch → List Stretch
  | .inert next :: rest => .inert (text ++ next) :: rest
  | rest => if text.isEmpty then rest else .inert text :: rest

/-- The stretches of a text: its XML declarations are code. -/
def textStretches (text : List Char) (rest : List Stretch) : List Stretch :=
  match _found : xmlDeclaration? text with
  | some (before, body, after) =>
    prependInert (neutralize before)
      (.code ("<?php echo '<?xml ".toList ++ stripSlashes (neutralize body) ++ " ?>'; ?>".toList) ::
        textStretches after rest)
  | none => prependInert (neutralize text) rest
termination_by text.length
decreasing_by exact length_after_xmlDeclaration? _found

def stretches : List Instruction → List Stretch
  | [] => []
  | .text content :: rest => textStretches content (stretches rest)
  | other :: rest => .code (instruction other) :: stretches rest

theorem stretches_code {other : Instruction} (noText : ∀ content, other ≠ .text content)
    (rest : List Instruction) :
    stretches (other :: rest) = .code (instruction other) :: stretches rest := by
  cases other with
  | text content => exact absurd rfl (noText content)
  | _ => rfl

section Stretches

variable {text : List Char} {rest : List Stretch} {instructions : List Instruction}

theorem flatMap_text_prependInert (text : List Char) (rest : List Stretch) :
    (prependInert text rest).flatMap Stretch.text = text ++ rest.flatMap Stretch.text := by
  unfold prependInert
  split
  · exact List.append_assoc _ _ _
  · split
    · simp_all
    · rfl

theorem flatMap_text_textStretches (text : List Char) (rest : List Stretch) :
    (textStretches text rest).flatMap Stretch.text = sanitize text ++ rest.flatMap Stretch.text := by
  fun_induction textStretches text rest with
  | case1 text before body after found ih =>
    rw [flatMap_text_prependInert, List.flatMap_cons, ih, sanitize_of_some found]
    simp only [Stretch.text, List.append_assoc]
  | case2 text none => rw [flatMap_text_prependInert, sanitize_of_none none]

/-- The stretches are the text of the program. -/
theorem flatMap_text_stretches (instructions : List Instruction) :
    (stretches instructions).flatMap Stretch.text = instructions.flatMap instruction := by
  fun_induction stretches instructions with
  | case1 => rfl
  | case2 content rest ih => rw [flatMap_text_textStretches, ih, List.flatMap_cons]; rfl
  | case3 other rest noText ih => rw [List.flatMap_cons, List.flatMap_cons, ih]; rfl

/-- Code begins and ends with a marker or with the blank at one. -/
def Stretch.Proper : Stretch → Prop
  | .code text => (∃ c ∈ text.head?, c ∈ ['<', ' ']) ∧ ∃ c ∈ text.getLast?, c ∈ ['>', ' ']
  | .inert text => text ≠ []

/-- No two stretches of inert text follow each other. -/
structure Alternating (row : List Stretch) : Prop where
  proper : ∀ stretch ∈ row, stretch.Proper
  turns : row.IsChain fun left right => ¬ (left.isInert ∧ right.isInert)

theorem Alternating.prependInert (alternating : Alternating rest) (text : List Char) :
    Alternating (prependInert text rest) := by
  unfold Php.prependInert
  split
  · rename_i next rest
    obtain ⟨proper, turns⟩ := alternating
    obtain ⟨filled, others⟩ := List.forall_mem_cons.1 proper
    refine ⟨List.forall_mem_cons.2 ⟨?_, others⟩, ?_⟩
    · exact fun empty => filled (List.append_eq_nil_iff.1 empty).2
    · rw [List.isChain_cons] at turns ⊢
      exact turns
  · rename_i noInert
    split
    · exact alternating
    · rename_i filled
      refine ⟨List.forall_mem_cons.2 ⟨?_, alternating.proper⟩, ?_⟩
      · exact fun empty => filled (by simp [empty])
      · refine List.isChain_cons.2 ⟨?_, alternating.turns⟩
        rintro stretch first ⟨-, isInert⟩
        obtain ⟨others, rfl⟩ := List.head?_eq_some_iff.1 first
        cases stretch with
        | code => cases isInert
        | inert next => exact noInert next others rfl

theorem Alternating.code (alternating : Alternating rest) (proper : (Stretch.code text).Proper) :
    Alternating (.code text :: rest) := by
  refine ⟨List.forall_mem_cons.2 ⟨proper, alternating.proper⟩,
    List.isChain_cons.2 ⟨?_, alternating.turns⟩⟩
  rintro _ - ⟨isInert, -⟩
  cases isInert

theorem Alternating.textStretches (alternating : Alternating rest) (text : List Char) :
    Alternating (textStretches text rest) := by
  fun_induction Php.textStretches text rest with
  | case1 text before body after found ih =>
    apply Alternating.prependInert
    apply ih.code
    refine ⟨⟨'<', rfl, by decide⟩, '>', ?_, by decide⟩
    rw [List.getLast?_append_of_ne_nil _ (by decide)]
    rfl
  | case2 => exact alternating.prependInert _

theorem proper_instruction {other : Instruction} (noText : ∀ content, other ≠ .text content) :
    (Stretch.code (instruction other)).Proper := by
  by_cases opens : other = .rawCodeOpen
  · rw [opens]
    exact ⟨⟨'<', rfl, by decide⟩, ' ', rfl, by decide⟩
  by_cases closes : other = .rawCodeClose
  · rw [closes]
    exact ⟨⟨' ', rfl, by decide⟩, '>', rfl, by decide⟩
  obtain ⟨code, isBlock⟩ := exists_block noText ⟨opens, closes⟩
  refine ⟨⟨'<', by rw [isBlock]; rfl, by decide⟩, '>', ?_, by decide⟩
  rw [isBlock, ← List.append_assoc, List.getLast?_append_of_ne_nil _ (by decide)]
  rfl

theorem alternating_stretches (instructions : List Instruction) :
    Alternating (stretches instructions) := by
  fun_induction stretches instructions with
  | case1 => exact ⟨by simp, .nil⟩
  | case2 content rest ih => exact ih.textStretches content
  | case3 other rest noText ih => exact ih.code (proper_instruction noText)

end Stretches

/-! ## Texts that meet at a marker -/

/-- Whether the last character of one text may close a block or the first one of the
    other may open one. -/
def Meets (left right : List Char) : Prop :=
  (∃ c ∈ left.getLast?, c ∈ ['>', ' ']) ∨ ∃ c ∈ right.head?, c ∈ ['<', ' ']

instance (left right : List Char) : Decidable (Meets left right) :=
  decidable_of_iff (left.getLast?.any (['>', ' '].contains ·) ∨
    right.head?.any (['<', ' '].contains ·)) (by simp [Meets, Option.any_eq_true])

/-- A row of texts that are not empty and meet at a marker. -/
structure Row (parts : List (List Char)) : Prop where
  filled : ∀ part ∈ parts, part ≠ []
  meets : parts.IsChain Meets

theorem Stretch.Proper.filled {stretch : Stretch} (proper : stretch.Proper) : stretch.text ≠ [] := by
  cases stretch with
  | inert text => exact proper
  | code text =>
    obtain ⟨⟨c, first, -⟩, -⟩ := proper
    rintro empty
    obtain rfl : text = [] := empty
    cases first

theorem Alternating.row {row : List Stretch} (alternating : Alternating row) :
    Row (row.map Stretch.text) := by
  obtain ⟨proper, turns⟩ := alternating
  constructor
  · exact List.forall_mem_map.2 fun stretch listed => (proper stretch listed).filled
  · rw [List.isChain_map]
    refine turns.imp_of_mem_imp fun left right leftListed rightListed inTurn => ?_
    -- One of the two is code, and code has a marker at the seam.
    cases left with
    | code text => exact .inl (proper _ leftListed).2
    | inert text =>
      cases right with
      | code next => exact .inr (proper _ rightListed).1
      | inert next => exact absurd ⟨rfl, rfl⟩ inTurn

section Seams

variable {left right start rest front back part : List Char} {parts : List (List Char)}

theorem Row.tail (row : Row (part :: parts)) : Row parts :=
  ⟨fun other listed => row.filled other (.tail _ listed), row.meets.tail⟩

theorem Meets.longer (meets : Meets left right) (more : List Char) : Meets left (right ++ more) :=
  meets.imp_right fun ⟨c, first, opens⟩ => ⟨c, List.mem_head?_append_of_mem_head? first, opens⟩

/-- Where a mark lies over the seam of two texts, its own parts meet like them. -/
theorem Meets.within {c : Char} (meets : Meets left right) (nonempty : start ≠ [])
    (inside : start <:+ left) (first : c ∈ right.head?) : Meets start (c :: rest) := by
  refine meets.imp ?_ ?_
  · rintro ⟨last, ends, closes⟩
    obtain ⟨front, rfl⟩ := inside
    rw [List.getLast?_append_of_ne_nil _ nonempty] at ends
    exact ⟨last, ends, closes⟩
  · rintro ⟨d, begins, opens⟩
    obtain rfl := Option.mem_unique begins first
    exact ⟨d, rfl, opens⟩

/-- A mark whose characters meet like texts of a row in one place only can lie over a
    seam only there. -/
theorem split_of_meets {mark : List Char} (place : Nat)
    (only : ∀ n ∈ List.range (mark.length + 1), Meets (mark.take n) (mark.drop n) → n = place)
    (split : start ++ rest = mark) (meets : Meets start rest) :
    start = mark.take place ∧ rest = mark.drop place := by
  subst split
  have bound : start.length ∈ List.range ((start ++ rest).length + 1) := by
    rw [List.mem_range, List.length_append]
    omega
  have here : start.length = place := by
    apply only _ bound
    rwa [List.take_left, List.drop_left]
  rw [← here, List.take_left, List.drop_left]
  exact ⟨rfl, rfl⟩

theorem joint_split (split : start ++ rest = "?><?php".toList) (meets : Meets start rest) :
    start = "?>".toList ∧ rest = "<?php".toList :=
  split_of_meets 2 (by decide) split meets

theorem newline_split (split : start ++ rest = "?>\n".toList) (meets : Meets start rest) :
    start = "?>".toList ∧ rest = ['\n'] :=
  split_of_meets 2 (by decide) split meets

/-- An opening marker does not lie over a seam. -/
theorem opening_of_row (row : Row (part :: parts))
    (begins : "<?php".toList <+: part ++ parts.flatten) : "<?php".toList <+: part := by
  have filled := row.filled part (.head _)
  rcases List.prefix_or_prefix_of_prefix begins (List.prefix_append part _) with
    within | ⟨rest, split⟩
  · exact within
  · rw [← split, List.prefix_append_right_inj] at begins
    cases parts with
    | nil =>
      obtain rfl := List.prefix_nil.1 begins
      simp [← split]
    | cons next parts =>
      have meets := (List.isChain_cons_cons.1 row.meets).1
      have nextFilled := row.filled next (.tail _ (.head _))
      cases rest with
      | nil => simp [← split]
      | cons c rest =>
        have first : c ∈ next.head? := by
          obtain ⟨d, next, rfl⟩ := List.exists_cons_of_ne_nil nextFilled
          rw [List.flatten_cons, List.cons_append, List.cons_prefix_cons] at begins
          exact congrArg some begins.1.symm
        have inner : Meets part (c :: rest) := meets.within filled (List.suffix_refl _) first
        have nothing : part = [] ∧ c :: rest = "<?php".toList :=
          split_of_meets 0 (by decide) split inner
        exact absurd nothing.1 filled

/-! ## Both replacements -/

/-- A text with its blocks joined and the newlines behind them doubled. -/
def rewritten (text : List Char) : List Char := doubleNewlines (joinBlocks text)

theorem joinBlocks_append (parted : Parted "?><?php".toList left right) :
    joinBlocks (left ++ right) = joinBlocks left ++ joinBlocks right :=
  replaceAll_append (by decide) parted

theorem doubleNewlines_append (parted : Parted "?>\n".toList left right) :
    doubleNewlines (left ++ right) = doubleNewlines left ++ doubleNewlines right :=
  replaceAll_append (by decide) parted

theorem joinBlocks_cons {c : Char} (other : c ≠ '?') (text : List Char) :
    joinBlocks (c :: text) = c :: joinBlocks text :=
  replaceAll_cons fun begins => other (List.cons_prefix_cons.1 begins).1.symm

theorem doubleNewlines_cons {c : Char} (other : c ≠ '?') (text : List Char) :
    doubleNewlines (c :: text) = c :: doubleNewlines text :=
  replaceAll_cons fun begins => other (List.cons_prefix_cons.1 begins).1.symm

theorem rewritten_cons {c : Char} (other : c ≠ '?') (text : List Char) :
    rewritten (c :: text) = c :: rewritten text := by
  rw [rewritten, joinBlocks_cons other, doubleNewlines_cons other, rewritten]

theorem rewritten_opening (back : List Char) :
    rewritten ("<?php".toList ++ back) = "<?php".toList ++ rewritten back := by
  rw [rewritten, joinBlocks_opening, doubleNewlines]
  apply replaceAll_of_untouched
  simp [untouched_cons, untouched_nil]

theorem joinBlocks_front (front rest : List Char) :
    joinBlocks (front ++ ("?>".toList ++ rest)) =
      joinBlocks front ++ joinBlocks ("?>".toList ++ rest) :=
  joinBlocks_append (parted_of_apart (by decide))

theorem doubleNewlines_front (front rest : List Char) :
    doubleNewlines (front ++ ("?>".toList ++ rest)) =
      doubleNewlines front ++ doubleNewlines ("?>".toList ++ rest) :=
  doubleNewlines_append (parted_of_apart (by decide))

theorem rewritten_close (front : List Char) :
    rewritten (front ++ "?>".toList) = rewritten front ++ "?>".toList := by
  have joined := joinBlocks_front front []
  rw [joinBlocks_close (by decide), show joinBlocks [] = [] from rfl] at joined
  have doubled := doubleNewlines_front (joinBlocks front) []
  rw [doubleNewlines_close (by simp), show doubleNewlines [] = [] from rfl] at doubled
  simp only [List.append_nil] at joined doubled
  rw [rewritten, joined, doubled, rewritten]

/-- At a seam, two blocks are joined. -/
theorem rewritten_joint (front back : List Char) :
    rewritten (front ++ ("?>".toList ++ ("<?php".toList ++ back))) =
      rewritten front ++ ' ' :: rewritten back := by
  have parted : Parted "?>\n".toList (joinBlocks front) ([' '] ++ joinBlocks back) :=
    parted_of_apart (by decide)
  rw [rewritten, joinBlocks_front, joinBlocks_joint]
  rw [List.singleton_append] at parted
  rw [doubleNewlines_append parted, doubleNewlines_cons (by decide), rewritten, rewritten]

/-- At a seam, a newline is doubled. -/
theorem rewritten_newline (front back : List Char) :
    rewritten (front ++ ("?>".toList ++ '\n' :: back)) =
      rewritten front ++ "?>".toList ++ '\n' :: rewritten ('\n' :: back) := by
  rw [rewritten, joinBlocks_front, joinBlocks_close (by simp), joinBlocks_cons (by decide),
    doubleNewlines_front, doubleNewlines_newline, rewritten_cons (by decide), rewritten, rewritten,
    List.append_assoc]

theorem head?_of_joinBlocks {c : Char} (other : c ≠ ' ') {text : List Char}
    (first : c ∈ (joinBlocks text).head?) : c ∈ text.head? :=
  head?_of_replaceAll (by decide) (by decide)
    (by simpa [eq_comm] using other) first

theorem head?_of_rewritten {text : List Char} (first : '\n' ∈ (rewritten text).head?) :
    '\n' ∈ text.head? :=
  head?_of_joinBlocks (by decide) (head?_of_replaceAll (by decide) (by decide) (by decide) first)

theorem suffix_of_joinBlocks {tail text : List Char} (closes : tail ⊆ "?>".toList)
    (ends : tail <:+ joinBlocks text) : tail <:+ text := by
  refine suffix_of_replaceAll (by decide) (by decide) (fun c listed => ?_) ends
  have among : ∀ c ∈ "?>".toList,
      c ∉ "?><?php".toList.getLast? ∧ c ∉ " ".toList.getLast? := by simp
  exact among c (closes listed)

theorem suffix_of_rewritten {text : List Char} (ends : "?>".toList <:+ rewritten text) :
    "?>".toList <:+ text :=
  suffix_of_joinBlocks (List.Subset.refl _)
    (suffix_of_replaceAll (by decide) (by decide) (by simp) ends)

theorem parted_joint (meets : Meets left right)
    (noJoint : ¬ ("?>".toList <:+ left ∧ "<?php".toList <+: right)) :
    Parted "?><?php".toList left right := by
  intro start rest split nonempty others inside begins
  obtain ⟨c, rest, rfl⟩ := List.exists_cons_of_ne_nil others
  obtain ⟨later, rfl⟩ := begins
  obtain ⟨rfl, same⟩ := joint_split split (meets.within nonempty inside rfl)
  exact noJoint ⟨inside, same ▸ List.prefix_append _ _⟩

/-- Joining blocks puts no newline behind a block where there was none. -/
theorem parted_newline (meets : Meets left right)
    (noNewline : ¬ ("?>".toList <:+ left ∧ '\n' ∈ right.head?)) :
    Parted "?>\n".toList (joinBlocks left) (joinBlocks right) := by
  intro start rest split nonempty others inside begins
  obtain ⟨c, rest, rfl⟩ := List.exists_cons_of_ne_nil others
  have within : start <+: "?>".toList := by
    have lengths := congrArg List.length split
    rw [List.length_append, List.length_cons] at lengths
    refine List.prefix_of_prefix_length_le ⟨_, split⟩ (by decide) ?_
    change _ = 3 at lengths
    change _ ≤ 2
    omega
  have notBlank : c ≠ ' ' := by
    rintro rfl
    have listed : ' ' ∈ "?>\n".toList := split ▸ by simp
    exact absurd listed (by decide)
  -- Neither end of the seam comes from the blank that is written for a joint.
  have ends := suffix_of_joinBlocks within.subset inside
  have first : c ∈ right.head? := by
    apply head?_of_joinBlocks notBlank
    obtain ⟨later, same⟩ := begins
    rw [← same]
    rfl
  obtain ⟨rfl, same⟩ := newline_split split (meets.within nonempty ends first)
  obtain ⟨rfl, -⟩ := List.cons.inj same
  exact noNewline ⟨ends, first⟩

/-- Where two texts meet and neither blocks are joined nor a newline is doubled, both
    are rewritten on their own. -/
theorem rewritten_append (meets : Meets left right)
    (noJoint : ¬ ("?>".toList <:+ left ∧ "<?php".toList <+: right))
    (noNewline : ¬ ("?>".toList <:+ left ∧ '\n' ∈ right.head?)) :
    rewritten (left ++ right) = rewritten left ++ rewritten right := by
  rw [rewritten, joinBlocks_append (parted_joint meets noJoint),
    doubleNewlines_append (parted_newline meets noNewline), rewritten, rewritten]

end Seams

/-! ## Artifacts, seam by seam -/

/-- A row of texts as one text that differs at their seams only: two blocks may be
    joined there, and a newline behind a block is doubled. -/
inductive Seamed : List (List Char) → List Char → Prop where
  | nil : Seamed [] []
  | last (part : List Char) : Seamed [part] part
  | plain {part next out : List Char} {rest : List (List Char)}
      (noNewline : ¬ ("?>".toList <:+ part ∧ '\n' ∈ next.head?))
      (later : Seamed (next :: rest) out) : Seamed (part :: next :: rest) (part ++ out)
  | doubled {part next out : List Char} {rest : List (List Char)}
      (closes : "?>".toList <:+ part) (newline : '\n' ∈ next.head?)
      (later : Seamed (next :: rest) out) : Seamed (part :: next :: rest) (part ++ '\n' :: out)
  | joined {front back out : List Char} {rest : List (List Char)}
      (later : Seamed (("<?php".toList ++ back) :: rest) ("<?php".toList ++ out)) :
      Seamed ((front ++ "?>".toList) :: ("<?php".toList ++ back) :: rest) (front ++ ' ' :: out)

/-- The header and a row of texts behind it.  The header is a block, too. -/
def AtSeams (parts : List (List Char)) (artifact : List Char) : Prop :=
  ∃ out, Seamed parts out ∧
    artifact = safetyHeader ++ if out.head? = some '\n' then '\n' :: out else out

/-- Whether a text holds blocks to be joined or a newline to be doubled. -/
def HoldsSeam (text : List Char) : Prop :=
  "?><?php".toList <:+: text ∨ "?>\n".toList <:+: text

section Artifacts

variable {parts : List (List Char)} {text code : List Char}

theorem rewritten_of_not_holdsSeam (free : ¬ HoldsSeam text) : rewritten text = text := by
  obtain ⟨noJoint, noNewline⟩ := not_or.1 free
  have joined : joinBlocks text = text := replaceAll_of_absent (by decide) noJoint
  rw [rewritten, joined]
  exact replaceAll_of_absent (by decide) noNewline

/-- A row is rewritten text by text, and at its seams. -/
theorem Row.seamed (row : Row parts) : Seamed (parts.map rewritten) (rewritten parts.flatten) := by
  induction parts with
  | nil => exact .nil
  | cons part parts ih =>
    cases parts with
    | nil =>
      rw [List.flatten_cons, List.flatten_nil, List.append_nil]
      exact .last _
    | cons next parts =>
      have others := row.tail
      have filled := others.filled next (.head _)
      have meets : Meets part next := (List.isChain_cons_cons.1 row.meets).1
      have later := ih others
      simp only [List.map_cons, List.flatten_cons] at later ⊢
      by_cases joint : "?>".toList <:+ part ∧ "<?php".toList <+: next
      · -- Both markers are taken out, so the rest is compared behind the opening one.
        obtain ⟨⟨front, rfl⟩, back, rfl⟩ := joint
        simp only [List.append_assoc, rewritten_opening] at later ⊢
        rw [rewritten_joint, rewritten_close]
        exact .joined later
      by_cases newline : "?>".toList <:+ part ∧ '\n' ∈ next.head?
      · obtain ⟨⟨front, rfl⟩, first⟩ := newline
        obtain ⟨back, rfl⟩ := List.head?_eq_some_iff.1 first
        rw [List.append_assoc, List.cons_append, rewritten_newline, rewritten_close]
        refine .doubled (List.suffix_append _ _) ?_ later
        rw [rewritten_cons (by decide)]
        rfl
      · have apart : rewritten (part ++ (next ++ parts.flatten)) =
            rewritten part ++ rewritten (next ++ parts.flatten) := by
          apply rewritten_append (meets.longer parts.flatten)
          · exact fun both => joint (both.imp_right (opening_of_row others))
          · rwa [List.head?_append_of_ne_nil _ filled]
        rw [apart]
        refine .plain ?_ later
        exact fun both => newline (both.imp suffix_of_rewritten head?_of_rewritten)

/-- An opening marker in front of a closing one does not reach into it. -/
theorem opening_of_close {front : List Char} (begins : "<?php".toList <+: front ++ "?>".toList) :
    "<?php".toList <+: front := by
  rcases List.prefix_or_prefix_of_prefix begins (List.prefix_append front _) with
    within | ⟨rest, split⟩
  · exact within
  · rw [← split, List.prefix_append_right_inj] at begins
    have none : ∀ rest ∈ "<?php".toList.tails, rest <+: "?>".toList → rest = [] := by decide
    obtain rfl := none rest ((List.mem_tails _ _).2 ⟨front, split⟩) begins
    simp [← split]

/-- Whether code is in a text, behind the opening marker that the text begins with if
    its first part does. -/
def Kept (code part out : List Char) : Prop :=
  ∃ left right, out = left ++ (code ++ right) ∧
    ("<?php".toList <+: part → "<?php".toList <+: left)

theorem kept_first (code after : List Char) (part : List Char) :
    Kept code part ("<?php".toList ++ (code ++ after)) :=
  ⟨"<?php".toList, after, rfl, fun _ => List.prefix_refl _⟩

theorem Kept.behind {part next out : List Char} (kept : Kept code next out) (gap : List Char) :
    Kept code part (part ++ (gap ++ out)) := by
  obtain ⟨left, right, rfl, -⟩ := kept
  exact ⟨part ++ (gap ++ left), right, by simp, fun begins => begins.trans (List.prefix_append _ _)⟩

/-- The code of every block is kept. -/
theorem Seamed.kept {out : List Char} (seamed : Seamed parts out)
    (listed : "<?php".toList ++ (code ++ "?>".toList) ∈ parts) : ∃ part, Kept code part out := by
  -- Joining takes an opening marker from the front of what follows, so the induction
  -- keeps track of the front.
  suffices ∀ part ∈ parts.head?, Kept code part out by
    cases parts with
    | nil => cases listed
    | cons part parts => exact ⟨part, this part rfl⟩
  induction seamed with
  | nil => cases listed
  | last part =>
    rintro _ ⟨⟩
    obtain rfl := List.mem_singleton.1 listed
    exact kept_first code _ _
  | @plain part next out rest noNewline later ih =>
    rintro _ ⟨⟩
    rcases List.mem_cons.1 listed with rfl | listed
    · simpa using kept_first code ("?>".toList ++ out) _
    · exact (ih listed next rfl).behind []
  | @doubled part next out rest closes newline later ih =>
    rintro _ ⟨⟩
    rcases List.mem_cons.1 listed with rfl | listed
    · simpa using kept_first code ("?>".toList ++ '\n' :: out) _
    · exact (ih listed next rfl).behind ['\n']
  | @joined front back out rest later ih =>
    rintro _ ⟨⟩
    rcases List.mem_cons.1 listed with isBlock | listed
    · rw [← List.append_assoc, List.append_cancel_right_eq] at isBlock
      subst isBlock
      simpa using kept_first code (' ' :: out) _
    · -- The opening marker that is gone is not part of the code.
      obtain ⟨left, right, whole, opened⟩ := ih listed _ rfl
      obtain ⟨left, rfl⟩ := opened (List.prefix_append _ _)
      rw [List.append_assoc, List.append_cancel_left_eq] at whole
      subst whole
      refine ⟨front ++ ' ' :: left, right, by simp, fun begins => ?_⟩
      exact (opening_of_close begins).trans (List.prefix_append _ _)

/-- Behind the header, the text of a program is rewritten like the rest of a row. -/
theorem emit_header (program : Program) :
    emit program = safetyHeader ++
      let out := rewritten (program.instructions.flatMap instruction)
      if out.head? = some '\n' then '\n' :: out else out := by
  have behind (after : List Char) : doubleNewlines (safetyHeader ++ after) =
      "<?php".toList ++ betweenMarkers safetyHeader ++ doubleNewlines ("?>".toList ++ after) := by
    rw [← doubleNewlines_code not_infix_header]
    nth_rewrite 1 [safetyHeader_eq]
    simp only [List.append_assoc]
  have closed (after : List Char) : safetyHeader ++ after =
      "<?php".toList ++ betweenMarkers safetyHeader ++ ("?>".toList ++ after) := by
    nth_rewrite 1 [safetyHeader_eq]
    simp only [List.append_assoc]
  -- Only the newline behind the header depends on the header.
  rw [emit, behind, closed, List.append_cancel_left_eq, rewritten]
  generalize joinBlocks (program.instructions.flatMap instruction) = body
  by_cases newline : body.head? = some '\n'
  · obtain ⟨rest, rfl⟩ := List.head?_eq_some_iff.1 newline
    rw [doubleNewlines_newline, doubleNewlines_cons (by decide)]
    rfl
  · have kept : (doubleNewlines body).head? ≠ some '\n' := fun first =>
      newline (head?_of_replaceAll (by decide) (by decide) (by decide) first)
    rw [doubleNewlines_close fun c first isNewline => newline (isNewline ▸ first), if_neg kept]

theorem mem_prependInert {stretch : Stretch} {rest : List Stretch} (isCode : stretch.isInert = false)
    (listed : stretch ∈ rest) (text : List Char) : stretch ∈ prependInert text rest := by
  unfold prependInert
  split
  · rcases List.mem_cons.1 listed with rfl | others
    · cases isCode
    · exact .tail _ others
  · split
    · exact listed
    · exact .tail _ listed

theorem mem_textStretches {stretch : Stretch} {rest : List Stretch}
    (isCode : stretch.isInert = false) (listed : stretch ∈ rest) (text : List Char) :
    stretch ∈ textStretches text rest := by
  fun_induction textStretches text rest with
  | case1 text before body after found ih => exact mem_prependInert isCode (.tail _ ih) _
  | case2 => exact mem_prependInert isCode listed _

theorem code_mem_stretches {other : Instruction} {instructions : List Instruction}
    (listed : other ∈ instructions) (noText : ∀ content, other ≠ .text content) :
    .code (instruction other) ∈ stretches instructions := by
  induction instructions with
  | nil => cases listed
  | cons first rest ih =>
    rcases List.mem_cons.1 listed with rfl | others
    · rw [stretches_code noText]
      exact .head _
    · by_cases isText : ∃ content, first = .text content
      · obtain ⟨content, rfl⟩ := isText
        exact mem_textStretches rfl (ih others) content
      · rw [stretches_code (not_exists.1 isText)]
        exact .tail _ (ih others)

/-- An artifact is its header and the stretches of the program, changed at their seams
    only.  A stretch that holds nothing to be joined or doubled is written as it is, and
    so is the code of a block. -/
theorem emit_at_seams (program : Program) :
    (stretches program.instructions).flatMap Stretch.text =
        program.instructions.flatMap instruction ∧
      (∃ outs, AtSeams outs (emit program) ∧
        List.Forall₂ (fun stretch out => ¬ HoldsSeam stretch.text → out = stretch.text)
          (stretches program.instructions) outs) ∧
      ∀ other ∈ program.instructions, (∀ content, other ≠ .text content) →
        other ≠ .rawCodeOpen ∧ other ≠ .rawCodeClose → ¬ HoldsSeam (instruction other) →
          betweenMarkers (instruction other) <:+: emit program := by
  have texts := flatMap_text_stretches program.instructions
  have seamed := (alternating_stretches program.instructions).row.seamed
  have whole := emit_header program
  rw [← texts, List.flatMap_def] at whole
  refine ⟨texts, ⟨_, ⟨_, seamed, whole⟩, ?_⟩, ?_⟩
  · rw [List.map_map, List.forall₂_map_right_iff, List.forall₂_same]
    exact fun stretch _ free => rewritten_of_not_holdsSeam free
  · intro other listed noText noRawCode free
    obtain ⟨code, isBlock⟩ := exists_block noText noRawCode
    have among := List.mem_map_of_mem (f := fun stretch => rewritten (Stretch.text stretch))
      (code_mem_stretches listed noText)
    rw [Stretch.text, rewritten_of_not_holdsSeam free, isBlock] at among
    rw [List.map_map] at seamed
    obtain ⟨part, left, right, split, -⟩ := seamed.kept among
    have inside : code <:+: rewritten ((stretches program.instructions).map Stretch.text).flatten :=
      split ▸ ⟨left, right, List.append_assoc left code right⟩
    rw [isBlock, betweenMarkers_eq, whole]
    refine (inside.trans ?_).trans (List.suffix_append safetyHeader _).isInfix
    dsimp only
    split
    · exact (List.suffix_cons _ _).isInfix
    · exact List.infix_refl _

/-- A newline behind the header is doubled and two blocks are joined; the string that
    holds an opening marker is written as it is. -/
theorem emit_at_seams_joined :
    ¬ HoldsSeam (instruction (.output (.code "'<?php'".toList))) ∧
      " echo '<?php'; ".toList <:+:
        emit ⟨[.text "\n".toList, .output (.code "'<?php'".toList), .ifClose]⟩ ∧
      emit ⟨[.text "\n".toList, .output (.code "'<?php'".toList), .ifClose]⟩ =
        safetyHeader ++ "\n\n<?php echo '<?php';   \x7d ?>".toList := by
  have free : ¬ HoldsSeam (instruction (.output (.code "'<?php'".toList))) := by
    rintro (inside | inside)
    · exact absurd inside (by decide)
    · exact absurd inside (by decide)
  have inert : instruction (.text "\n".toList) = "\n".toList := sanitize_of_none rfl
  have code : betweenMarkers (instruction (.output (.code "'<?php'".toList))) =
      " echo '<?php'; ".toList := by decide +kernel
  refine ⟨free, ?_, ?_⟩
  · rw [← code]
    exact (emit_at_seams ⟨[.text "\n".toList, .output (.code "'<?php'".toList), .ifClose]⟩).2.2 _
      (.tail _ (.head _)) (by simp) (by simp) free
  · rw [emit, List.flatMap_cons, inert]
    decide +kernel

theorem Seamed.eq_of_singleton {part out : List Char} (seamed : Seamed [part] out) : out = part := by
  cases seamed
  rfl

/-- A newline behind an XML declaration is doubled, too, where it starts no text. -/
theorem not_atSeams_declaration :
    ¬ AtSeams ([.text "<?xml?>\n".toList].map instruction)
      (emit ⟨[.text "<?xml?>\n".toList]⟩) := by
  have written : instruction (.text "<?xml?>\n".toList) =
      "<?php echo '<?xml  ?>'; ?>\n".toList := by
    have found : xmlDeclaration? "<?xml?>\n".toList = some ([], [], "\n".toList) := by decide +kernel
    have after : sanitize "\n".toList = "\n".toList := sanitize_of_none rfl
    refine (sanitize_of_some found).trans ?_
    rw [after]
    decide +kernel
  rintro ⟨out, seamed, whole⟩
  rw [List.map_singleton, written] at seamed
  rw [seamed.eq_of_singleton, emit, List.flatMap_singleton, written] at whole
  revert whole
  decide +kernel

end Artifacts

end Stencil.Php
