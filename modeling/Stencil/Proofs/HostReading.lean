import Mathlib.Data.List.Infix
import Stencil.Php.Emit
import Stencil.Proofs.CodeMarkers
import Stencil.Proofs.Occurrences

/-! # How the host reads an artifact

The host prints inline text up to an opening marker and runs code up to a
closing marker; a newline directly behind a closing marker is dropped.  Read
that way, the artifact of a program prints its texts, made inert, and runs its
code: the newlines that are doubled make up for those the host drops, and only
blocks with nothing between them are joined.

* `read` — an artifact as the host sees it;
* `layout` — the text and the blocks of a program, in order;
* `joined` — blocks that are joined where no text separates them;
* `read_emit` — the reading of an artifact.
-/

namespace Stencil.Php

open Stencil.Program (Instruction)
open Stencil.Text

/-- A block of code and the inline text behind it. -/
structure Block where
  code : List Char
  text : List Char
  deriving DecidableEq, Repr

/-- Inline text and the blocks behind it. -/
structure Reading where
  lead : List Char
  blocks : List Block
  deriving DecidableEq, Repr

/-! ## Reading -/

/-- The text behind a closing marker; the host drops a newline there. -/
def skipNewline : List Char → List Char
  | '\n' :: rest => rest
  | text => text

theorem length_skipNewline (text : List Char) : (skipNewline text).length ≤ text.length := by
  unfold skipNewline
  split <;> simp

/-- An artifact as the host reads it.  Code that is not closed reaches to the
    end. -/
def read (artifact : List Char) : Reading :=
  match _opened : splitFirst? "<?php".toList artifact with
  | none => ⟨artifact, []⟩
  | some (lead, inside) =>
    match _closed : splitFirst? "?>".toList inside with
    | none => ⟨lead, [⟨inside, []⟩]⟩
    | some (code, after) =>
      let later := read (skipNewline after)
      ⟨lead, ⟨code, later.lead⟩ :: later.blocks⟩
termination_by artifact.length
decreasing_by
  have outer := congrArg List.length (splitFirst?_append _opened)
  have inner := congrArg List.length (splitFirst?_append _closed)
  have dropped := length_skipNewline after
  simp only [List.length_append, String.length_toList] at outer inner
  have : "<?php".length = 5 := rfl
  omega

/-! ## Layouts -/

/-- A block without its markers. -/
def betweenMarkers (block : List Char) : List Char :=
  ((stripStart? "<?php".toList block).bind (stripEnd? "?>".toList)).getD block

/-- The inert text of a program and the code of its blocks, in order. -/
def layout : List Instruction → Reading
  | [] => ⟨[], []⟩
  | .text content :: rest => ⟨neutralize content ++ (layout rest).lead, (layout rest).blocks⟩
  | other :: rest =>
    ⟨[], ⟨betweenMarkers (instruction other), (layout rest).lead⟩ :: (layout rest).blocks⟩

/-- Blocks with nothing between them are run as one. -/
def joined : List Block → List Block
  | [] => []
  | block :: rest =>
    match block.text, joined rest with
    | [], next :: others => ⟨block.code ++ ' ' :: next.code, next.text⟩ :: others
    | _, others => block :: others

/-- Blocks as they are written. -/
def written (blocks : List Block) : List Char :=
  blocks.flatMap fun block => "<?php".toList ++ (block.code ++ ("?>".toList ++ block.text))

/-! ## What no marker of the host's is cut from -/

section Untouched

variable {text code after : List Char} {blocks : List Block}

theorem written_cons (block : Block) (blocks : List Block) :
    written (block :: blocks) =
      "<?php".toList ++ (block.code ++ ("?>".toList ++ (block.text ++ written blocks))) := by
  simp [written]

theorem head?_written (blocks : List Block) : ∀ c ∈ (written blocks).head?, c = '<' := by
  cases blocks with
  | nil => simp [written]
  | cons block blocks => simp [written_cons]

theorem untouched_close (free : ¬ "?>".toList <:+: text) (blocks : List Block) :
    Untouched "?>".toList text (written blocks) := by
  apply untouched_of_absent free
  intro c first
  rw [head?_written blocks c first]
  decide

theorem untouched_open (free : ¬ "<?php".toList <:+: text) (blocks : List Block) :
    Untouched "<?php".toList text (written blocks) := by
  apply untouched_of_absent free
  intro c first
  rw [head?_written blocks c first]
  decide

/-- A block goes on to the closing marker at its end. -/
theorem untouched_code (free : ¬ "?>".toList <:+: code) (after : List Char) :
    Untouched "?>".toList ("<?php".toList ++ code) ("?>".toList ++ after) := by
  have inside : Untouched "?>".toList code ("?>".toList ++ after) := by
    apply untouched_of_absent free
    rintro c ⟨⟩
    decide
  refine untouched_append.2 ⟨?_, inside⟩
  simp [untouched_cons, untouched_nil]

end Untouched

/-! ## Joining blocks -/

/-- A block that is closed at its end only, with text behind it that neither
    opens nor closes one. -/
structure Block.Plain (block : Block) : Prop where
  code : ¬ "?>".toList <:+: block.code
  close : ¬ "?>".toList <:+: block.text
  opening : ¬ "<?php".toList <:+: block.text

section Joining

variable {text code : List Char} {block : Block} {blocks : List Block}

theorem joinBlocks_text (close : ¬ "?>".toList <:+: text) (blocks : List Block) :
    joinBlocks (text ++ written blocks) = text ++ joinBlocks (written blocks) :=
  replaceAll_of_untouched ((untouched_close close blocks).longer ⟨"<?php".toList, rfl⟩)

theorem joinBlocks_code (free : ¬ "?>".toList <:+: code) (after : List Char) :
    joinBlocks ("<?php".toList ++ code ++ ("?>".toList ++ after)) =
      "<?php".toList ++ code ++ joinBlocks ("?>".toList ++ after) :=
  replaceAll_of_untouched ((untouched_code free after).longer ⟨"<?php".toList, rfl⟩)

/-- A block that is not followed by another at once ends where it did. -/
theorem joinBlocks_close {after : List Char} (apart : ¬ "<?php".toList <+: after) :
    joinBlocks ("?>".toList ++ after) = "?>".toList ++ joinBlocks after := by
  apply replaceAll_of_untouched
  refine untouched_cons.2 ⟨fun begins => apart ?_, untouched_cons.2 ⟨?_, untouched_nil⟩⟩
  · exact (List.prefix_append_right_inj "?>".toList).1 begins
  · rintro ⟨rest, same⟩
    cases same

/-- A block that is followed by another at once goes on in it. -/
theorem joinBlocks_joint (after : List Char) :
    joinBlocks ("?>".toList ++ ("<?php".toList ++ after)) = ' ' :: joinBlocks after :=
  replaceAll_mark (by decide) after

theorem joinBlocks_opening (after : List Char) :
    joinBlocks ("<?php".toList ++ after) = "<?php".toList ++ joinBlocks after := by
  apply replaceAll_of_untouched
  simp [untouched_cons, untouched_nil]

theorem exists_joined (block : Block) (blocks : List Block) :
    ∃ next others, joined (block :: blocks) = next :: others := by
  rw [joined]
  split
  · exact ⟨_, _, rfl⟩
  · exact ⟨_, _, rfl⟩

theorem joined_of_joint {next : Block} {others : List Block} (empty : block.text = [])
    (same : joined blocks = next :: others) :
    joined (block :: blocks) = ⟨block.code ++ ' ' :: next.code, next.text⟩ :: others := by
  rw [joined, empty, same]

theorem joined_of_text (filled : block.text ≠ []) :
    joined (block :: blocks) = block :: joined blocks := by
  rw [joined]
  split
  · contradiction
  · rfl

/-- Joining is the same for blocks and for what is written of them. -/
theorem joinBlocks_written (plain : ∀ block ∈ blocks, block.Plain) :
    joinBlocks (written blocks) = written (joined blocks) := by
  induction blocks with
  | nil => rfl
  | cons block blocks ih =>
    obtain ⟨⟨code, close, opening⟩, others⟩ := List.forall_mem_cons.1 plain
    rw [written_cons, ← List.append_assoc, joinBlocks_code code]
    by_cases filled : block.text = []
    · cases blocks with
      | nil => simp [joined, written, filled, joinBlocks, replaceAll, replaceFrom]
      | cons next blocks =>
        obtain ⟨first, later, same⟩ := exists_joined next blocks
        -- The joint takes the opening of the next block, so what is known of the
        -- next block is cut to what stands behind its opening.
        have rest := ih others
        rw [same, written_cons, written_cons, joinBlocks_opening,
          List.append_cancel_left_eq] at rest
        rw [filled, List.nil_append, written_cons, joinBlocks_joint, rest,
          joined_of_joint filled same, written_cons]
        simp
    · have apart : ¬ "<?php".toList <+: block.text ++ written blocks :=
        untouched_open opening blocks _ filled (List.suffix_refl _)
      rw [joinBlocks_close apart, joinBlocks_text close, ih others, joined_of_text filled,
        written_cons, List.append_assoc]

/-- Joining drops no text. -/
theorem flatMap_text_joined (blocks : List Block) :
    (joined blocks).flatMap Block.text = blocks.flatMap Block.text := by
  induction blocks with
  | nil => rfl
  | cons block blocks ih =>
    rw [joined]
    split
    · rename_i empty same
      rw [List.flatMap_cons, List.flatMap_cons, empty, List.nil_append, ← ih, same,
        List.flatMap_cons]
    · rw [List.flatMap_cons, List.flatMap_cons, ih]

theorem not_infix_joint {next : List Char} (free : ¬ "?>".toList <:+: code)
    (nextFree : ¬ "?>".toList <:+: next) : ¬ "?>".toList <:+: code ++ ' ' :: next := by
  apply not_infix_of_untouched (by decide)
  refine untouched_append.2 ⟨untouched_of_absent free ?_,
    untouched_cons.2 ⟨?_, untouched_of_absent nextFree (by simp)⟩⟩
  · rintro c ⟨⟩
    decide
  · rintro ⟨rest, same⟩
    cases same

theorem plain_joined (plain : ∀ block ∈ blocks, block.Plain) :
    ∀ block ∈ joined blocks, block.Plain := by
  induction blocks with
  | nil => simp [joined]
  | cons block blocks ih =>
    obtain ⟨first, others⟩ := List.forall_mem_cons.1 plain
    have later := ih others
    rw [joined]
    split
    · rename_i empty same
      rw [same] at later
      obtain ⟨⟨code, close, opening⟩, rest⟩ := List.forall_mem_cons.1 later
      exact List.forall_mem_cons.2 ⟨⟨not_infix_joint first.code code, close, opening⟩, rest⟩
    · exact List.forall_mem_cons.2 ⟨first, later⟩

end Joining

/-! ## Reading what is written -/

section Doubling

variable {text code after : List Char} {block : Block} {blocks : List Block}

theorem doubleNewlines_text (close : ¬ "?>".toList <:+: text) (blocks : List Block) :
    doubleNewlines (text ++ written blocks) = text ++ doubleNewlines (written blocks) :=
  replaceAll_of_untouched ((untouched_close close blocks).longer ⟨['\n'], rfl⟩)

theorem doubleNewlines_code (free : ¬ "?>".toList <:+: code) (after : List Char) :
    doubleNewlines ("<?php".toList ++ code ++ ("?>".toList ++ after)) =
      "<?php".toList ++ code ++ doubleNewlines ("?>".toList ++ after) :=
  replaceAll_of_untouched ((untouched_code free after).longer ⟨['\n'], rfl⟩)

theorem doubleNewlines_close (inline : ∀ c ∈ after.head?, c ≠ '\n') :
    doubleNewlines ("?>".toList ++ after) = "?>".toList ++ doubleNewlines after := by
  apply replaceAll_of_untouched
  refine untouched_cons.2 ⟨fun begins => ?_, untouched_cons.2 ⟨?_, untouched_nil⟩⟩
  · obtain ⟨rest, rfl⟩ := (List.prefix_append_right_inj "?>".toList).1 begins
    exact inline '\n' rfl rfl
  · rintro ⟨rest, same⟩
    cases same

theorem doubleNewlines_newline (after : List Char) :
    doubleNewlines ("?>".toList ++ '\n' :: after) =
      "?>".toList ++ '\n' :: '\n' :: doubleNewlines after :=
  replaceAll_mark (by decide) after

/-- Blocks without text behind them have no newline to double. -/
theorem doubleNewlines_written (free : ∀ block ∈ blocks, ¬ "?>".toList <:+: block.code)
    (noText : ∀ block ∈ blocks, block.text = []) : doubleNewlines (written blocks) = written blocks := by
  induction blocks with
  | nil => rfl
  | cons block blocks ih =>
    obtain ⟨first, later⟩ := List.forall_mem_cons.1 free
    obtain ⟨empty, others⟩ := List.forall_mem_cons.1 noText
    have inline : ∀ c ∈ (written blocks).head?, c ≠ '\n' := by
      intro c begins
      rw [head?_written blocks c begins]
      decide
    rw [written_cons, empty, List.nil_append, ← List.append_assoc, doubleNewlines_code first,
      doubleNewlines_close inline, ih later others]

theorem head?_doubled (plain : ∀ block ∈ blocks, block.Plain) :
    ∀ c ∈ (doubleNewlines (written blocks)).head?, c = '<' := by
  cases blocks with
  | nil => simp [written, doubleNewlines, replaceAll, replaceFrom]
  | cons block blocks =>
    rw [written_cons, ← List.append_assoc, doubleNewlines_code (plain block (.head _)).code]
    simp

theorem skipNewline_of_head? (inline : ∀ c ∈ text.head?, c ≠ '\n') : skipNewline text = text := by
  cases text with
  | nil => rfl
  | cons c text =>
    have other : c ≠ '\n' := inline c rfl
    simp [skipNewline, other]

/-- The newline that the host drops is the one that was added. -/
theorem exists_doubled (close : ¬ "?>".toList <:+: text) (plain : ∀ block ∈ blocks, block.Plain) :
    ∃ after, doubleNewlines ("?>".toList ++ (text ++ written blocks)) = "?>".toList ++ after ∧
      skipNewline after = text ++ doubleNewlines (written blocks) := by
  have copied := doubleNewlines_text close blocks
  cases text with
  | nil =>
    have inline : ∀ c ∈ (written blocks).head?, c ≠ '\n' := by
      intro c first
      rw [head?_written blocks c first]
      decide
    have kept : ∀ c ∈ (doubleNewlines (written blocks)).head?, c ≠ '\n' := by
      intro c first
      rw [head?_doubled plain c first]
      decide
    exact ⟨_, doubleNewlines_close inline, skipNewline_of_head? kept⟩
  | cons c text =>
    by_cases newline : c = '\n'
    · subst newline
      have behind : ¬ "?>".toList <:+: text := fun inside =>
        close (inside.trans (List.suffix_cons _ _).isInfix)
      refine ⟨_, doubleNewlines_newline (text ++ written blocks), ?_⟩
      show '\n' :: doubleNewlines (text ++ written blocks) = _
      rw [doubleNewlines_text behind]
      rfl
    · refine ⟨_, doubleNewlines_close ?_, ?_⟩
      · rintro _ ⟨⟩
        exact newline
      · rw [copied]
        apply skipNewline_of_head?
        rintro _ ⟨⟩
        exact newline

theorem read_text (opening : ¬ "<?php".toList <:+: text) : read text = ⟨text, []⟩ := by
  rw [read]
  split
  · rfl
  · rename_i opened
    rw [splitFirst?_eq_none opening] at opened
    cases opened

theorem read_block (opening : ¬ "<?php".toList <:+: text) (free : ¬ "?>".toList <:+: code)
    (after : List Char) :
    read (text ++ ("<?php".toList ++ (code ++ ("?>".toList ++ after)))) =
      ⟨text, ⟨code, (read (skipNewline after)).lead⟩ :: (read (skipNewline after)).blocks⟩ := by
  have opened : splitFirst? "<?php".toList
      (text ++ ("<?php".toList ++ (code ++ ("?>".toList ++ after)))) =
        some (text, code ++ ("?>".toList ++ after)) := by
    apply splitFirst?_of_untouched (by decide)
    apply untouched_of_absent opening
    rintro c ⟨⟩
    decide
  have closed : splitFirst? "?>".toList (code ++ ("?>".toList ++ after)) = some (code, after) := by
    apply splitFirst?_of_untouched (by decide)
    apply untouched_of_absent free
    rintro c ⟨⟩
    decide
  rw [read]
  split
  · rename_i none
    rw [opened] at none
    cases none
  · rename_i lead inside found
    rw [opened] at found
    cases found
    split
    · rename_i none
      rw [closed] at none
      cases none
    · rename_i found
      rw [closed] at found
      cases found
      rfl

/-- With newlines doubled, the host reads the blocks that were written. -/
theorem read_doubled (opening : ¬ "<?php".toList <:+: text)
    (plain : ∀ block ∈ blocks, block.Plain) :
    read (text ++ doubleNewlines (written blocks)) = ⟨text, blocks⟩ := by
  -- The text behind a block is the text in front of the next one.
  induction blocks generalizing text with
  | nil =>
    rw [show doubleNewlines (written []) = [] from rfl, List.append_nil]
    exact read_text opening
  | cons block blocks ih =>
    obtain ⟨first, others⟩ := List.forall_mem_cons.1 plain
    obtain ⟨after, doubled, skipped⟩ := exists_doubled first.close others
    rw [written_cons, ← List.append_assoc "<?php".toList, doubleNewlines_code first.code, doubled,
      List.append_assoc, read_block opening first.code, skipped, ih first.opening others]

end Doubling

/-! ## Artifacts -/

/-- Programs whose blocks end where they are closed, and whose texts hold no
    marker once they are made inert. -/
structure Regular (program : Program) : Prop where
  noRawCode : .rawCodeOpen ∉ program.instructions ∧ .rawCodeClose ∉ program.instructions
  closed : ∀ other ∈ program.instructions, (∀ content, other ≠ .text content) →
    ¬ "?>".toList <:+: (instruction other).dropLast
  noDeclaration : ∀ content, .text content ∈ program.instructions →
    ∀ body, ¬ "<?xml".toList ++ (body ++ "?>".toList) <:+: content
  lead : ¬ HasMarker (layout program.instructions).lead
  texts : ∀ block ∈ (layout program.instructions).blocks, ¬ HasMarker block.text

theorem betweenMarkers_eq (code : List Char) :
    betweenMarkers ("<?php".toList ++ (code ++ "?>".toList)) = code := by
  have opened : stripStart? "<?php".toList ("<?php".toList ++ (code ++ "?>".toList)) =
      some (code ++ "?>".toList) := isPrefixOf?_eq_some_iff.2 rfl
  have closed : stripEnd? "?>".toList (code ++ "?>".toList) = some code := by
    rw [stripEnd?, List.reverse_append, isPrefixOf?_eq_some_iff.2 rfl]
    simp
  rw [betweenMarkers, opened, Option.bind_some, closed]
  rfl

theorem exists_code (start code finish : List Char) :
    ∃ inner, "<?php".toList ++ start ++ code ++ (finish ++ "?>".toList) =
      "<?php".toList ++ (inner ++ "?>".toList) := by
  refine ⟨start ++ (code ++ finish), ?_⟩
  simp only [List.append_assoc]

/-- Every instruction but a text and raw code is a block. -/
theorem exists_block {other : Instruction} (noText : ∀ content, other ≠ .text content)
    (noRawCode : other ≠ .rawCodeOpen ∧ other ≠ .rawCodeClose) :
    ∃ code, instruction other = "<?php".toList ++ (code ++ "?>".toList) := by
  have isBlock (code : List Char) :
      ∃ inner, block code = "<?php".toList ++ (inner ++ "?>".toList) :=
    exists_code [' '] code [' ']
  cases other with
  | text content => exact absurd rfl (noText content)
  | rawCodeOpen => exact absurd rfl noRawCode.1
  | rawCodeClose => exact absurd rfl noRawCode.2
  | inclusion target =>
    cases target with
    | fixed path => exact exists_code " require $this->processTemplate(\"".toList path "\");".toList
    | dynamic folder path =>
      show ∃ code, "<?php require $this->processTemplate('".toList ++ folder ++ "'.".toList ++
        expression path ++ ");?>".toList = "<?php".toList ++ (code ++ "?>".toList)
      obtain ⟨inner, same⟩ := exists_code " require $this->processTemplate('".toList
        (folder ++ ("'.".toList ++ expression path)) ");".toList
      refine ⟨inner, Eq.trans ?_ same⟩
      simp only [List.append_assoc]
      rfl
  | output | statement | loopOpen | loopClose | loopBreak | loopContinue | ifOpen | elseIf
  | otherwise | ifClose | notice | customTag => exact isBlock _

theorem xmlDeclaration?_append {text before body after : List Char}
    (found : xmlDeclaration? text = some (before, body, after)) :
    before ++ ("<?xml".toList ++ (body ++ ("?>".toList ++ after))) = text := by
  simp only [xmlDeclaration?, Option.bind_eq_bind, Option.bind_eq_some_iff, Option.pure_def,
    Option.some.injEq, Prod.mk.injEq] at found
  obtain ⟨⟨start, inside⟩, opened, ⟨middle, rest⟩, closed, rfl, rfl, rfl⟩ := found
  have outer := splitFirst?_append opened
  have inner : middle ++ "?>".toList ++ rest = inside := splitFirst?_append closed
  rw [← outer, ← inner]
  simp

/-- A text without an XML declaration is only made inert. -/
theorem sanitize_of_none {text : List Char} (none : xmlDeclaration? text = none) :
    sanitize text = neutralize text := by
  rw [sanitize]
  split
  · rename_i found
    rw [none] at found
    cases found
  · rfl

/-- The first XML declaration of a text is printed, and the rest goes on. -/
theorem sanitize_of_some {text before body after : List Char}
    (found : xmlDeclaration? text = some (before, body, after)) :
    sanitize text = neutralize before ++ "<?php echo '<?xml ".toList ++
      stripSlashes (neutralize body) ++ " ?>'; ?>".toList ++ sanitize after := by
  rw [sanitize]
  split
  · rename_i other
    rw [found] at other
    cases other
    rfl
  · rename_i none
    rw [found] at none
    cases none

theorem sanitize_of_noDeclaration {text : List Char}
    (noDeclaration : ∀ body, ¬ "<?xml".toList ++ (body ++ "?>".toList) <:+: text) :
    sanitize text = neutralize text := by
  cases found : xmlDeclaration? text with
  | none => exact sanitize_of_none found
  | some parts =>
    obtain ⟨before, body, after⟩ := parts
    refine absurd ⟨before, after, ?_⟩ (noDeclaration body)
    rw [← xmlDeclaration?_append found]
    simp

theorem layout_block {other : Instruction} (noText : ∀ content, other ≠ .text content)
    (rest : List Instruction) :
    layout (other :: rest) =
      ⟨[], ⟨betweenMarkers (instruction other), (layout rest).lead⟩ :: (layout rest).blocks⟩ := by
  cases other with
  | text content => exact absurd rfl (noText content)
  | _ => rfl

theorem written_layout {instructions : List Instruction}
    (noRawCode : .rawCodeOpen ∉ instructions ∧ .rawCodeClose ∉ instructions)
    (noDeclaration : ∀ content, .text content ∈ instructions →
      ∀ body, ¬ "<?xml".toList ++ (body ++ "?>".toList) <:+: content) :
    instructions.flatMap instruction =
      (layout instructions).lead ++ written (layout instructions).blocks := by
  induction instructions with
  | nil => rfl
  | cons first rest ih =>
    have later := ih (by simp_all) fun content listed => noDeclaration content (.tail _ listed)
    rw [List.flatMap_cons, later]
    by_cases isText : ∃ content, first = .text content
    · obtain ⟨content, rfl⟩ := isText
      have inert : instruction (.text content) = neutralize content :=
        sanitize_of_noDeclaration (noDeclaration content (.head _))
      rw [layout, inert, List.append_assoc]
    · have noText : ∀ content, first ≠ .text content := not_exists.1 isText
      obtain ⟨code, isBlock⟩ := exists_block noText (by simp_all [eq_comm])
      rw [layout_block noText, isBlock, betweenMarkers_eq, written_cons]
      simp

theorem not_hasMarker {text : List Char} (inert : ¬ HasMarker text) :
    ¬ "?>".toList <:+: text ∧ ¬ "<?php".toList <:+: text := by
  constructor
  · intro inside
    exact inert ⟨_, by decide, inside⟩
  · intro inside
    exact inert ⟨_, by decide, inside⟩

/-- The code of a block that is closed at its end only. -/
theorem not_infix_betweenMarkers {other : Instruction}
    (noText : ∀ content, other ≠ .text content)
    (noRawCode : other ≠ .rawCodeOpen ∧ other ≠ .rawCodeClose)
    (closed : ¬ "?>".toList <:+: (instruction other).dropLast) :
    ¬ "?>".toList <:+: betweenMarkers (instruction other) := by
  obtain ⟨code, isBlock⟩ := exists_block noText noRawCode
  have allButLast : (instruction other).dropLast = "<?php".toList ++ (code ++ ['?']) := by
    rw [isBlock, List.dropLast_append_of_ne_nil (by simp), List.dropLast_append_of_ne_nil (by decide)]
    rfl
  rw [isBlock, betweenMarkers_eq]
  rintro ⟨before, after, rfl⟩
  refine closed ⟨"<?php".toList ++ before, after ++ ['?'], ?_⟩
  rw [allButLast]
  simp

theorem code_layout {instructions : List Instruction}
    (noRawCode : .rawCodeOpen ∉ instructions ∧ .rawCodeClose ∉ instructions)
    (closed : ∀ other ∈ instructions, (∀ content, other ≠ .text content) →
      ¬ "?>".toList <:+: (instruction other).dropLast) :
    ∀ block ∈ (layout instructions).blocks, ¬ "?>".toList <:+: block.code := by
  induction instructions with
  | nil => simp [layout]
  | cons first rest ih =>
    have later := ih (by simp_all) fun other listed => closed other (.tail _ listed)
    by_cases isText : ∃ content, first = .text content
    · obtain ⟨content, rfl⟩ := isText
      exact later
    · have noText : ∀ content, first ≠ .text content := not_exists.1 isText
      rw [layout_block noText]
      refine List.forall_mem_cons.2 ⟨?_, later⟩
      exact not_infix_betweenMarkers noText (by simp_all [eq_comm]) (closed first (.head _) noText)

theorem Regular.plain_layout {program : Program} (regular : Regular program) :
    ∀ block ∈ (layout program.instructions).blocks, block.Plain := by
  intro block listed
  obtain ⟨close, opening⟩ := not_hasMarker (regular.texts block listed)
  exact ⟨code_layout regular.noRawCode regular.closed block listed, close, opening⟩

/-- What the host prints of an artifact, its code aside. -/
def Reading.printed (reading : Reading) : List Char :=
  reading.lead ++ reading.blocks.flatMap Block.text

/-- The inert text of an instruction. -/
def inertText : Instruction → List Char
  | .text content => neutralize content
  | _ => []

theorem printed_layout (instructions : List Instruction) :
    (layout instructions).printed = instructions.flatMap inertText := by
  induction instructions with
  | nil => rfl
  | cons first rest ih =>
    rw [List.flatMap_cons, ← ih]
    by_cases isText : ∃ content, first = .text content
    · obtain ⟨content, rfl⟩ := isText
      exact List.append_assoc _ _ _
    · have noText : ∀ content, first ≠ .text content := not_exists.1 isText
      have nothing : inertText first = [] := by
        cases first with
        | text content => exact absurd rfl (noText content)
        | _ => rfl
      rw [layout_block noText, nothing]
      rfl

/-- The header is a block, too. -/
theorem safetyHeader_eq :
    safetyHeader = "<?php".toList ++ (betweenMarkers safetyHeader ++ "?>".toList) := by
  decide +kernel

theorem not_infix_header : ¬ "?>".toList <:+: betweenMarkers safetyHeader := by
  decide +kernel

/-- The host runs the blocks of a regular program and prints its texts between
    them, made inert; no newline is dropped or added. -/
theorem read_emit (program : Program) (regular : Regular program) :
    read (emit program) =
        ⟨[], ⟨betweenMarkers safetyHeader, (layout program.instructions).lead⟩ ::
          joined (layout program.instructions).blocks⟩ ∧
      (read (emit program)).printed = program.instructions.flatMap inertText := by
  have plain := regular.plain_layout
  obtain ⟨close, opening⟩ := not_hasMarker regular.lead
  have first : Block.Plain ⟨betweenMarkers safetyHeader, (layout program.instructions).lead⟩ :=
    ⟨not_infix_header, close, opening⟩
  -- The header is one more block in front, whose text is the lead of the program.
  have whole : emit program = [] ++ doubleNewlines
      (written (⟨betweenMarkers safetyHeader, (layout program.instructions).lead⟩ ::
        joined (layout program.instructions).blocks)) := by
    rw [emit, written_layout regular.noRawCode regular.noDeclaration, joinBlocks_text close,
      joinBlocks_written plain, written_cons, List.nil_append]
    nth_rewrite 1 [safetyHeader_eq]
    simp only [List.append_assoc]
  have noLead : ¬ "<?php".toList <:+: ([] : List Char) := by decide
  have reading := read_doubled noLead (List.forall_mem_cons.2 ⟨first, plain_joined plain⟩)
  rw [whole, reading]
  refine ⟨rfl, ?_⟩
  rw [← printed_layout, Reading.printed, List.flatMap_cons, flatMap_text_joined]
  rfl

/-- Newlines behind the header and behind blocks are printed, and two blocks that
    only an empty text separates are run as one. -/
theorem read_emit_newlines :
    Regular ⟨[.text "\n<".toList, .output (.code "$a".toList), .text [],
      .statement (.code "f()".toList), .text "\n".toList, .text "\n?".toList, .otherwise]⟩ ∧
    read (emit ⟨[.text "\n<".toList, .output (.code "$a".toList), .text [],
      .statement (.code "f()".toList), .text "\n".toList, .text "\n?".toList, .otherwise]⟩) =
      ⟨[], [⟨betweenMarkers safetyHeader, "\n<".toList⟩,
        ⟨" echo $a;   f(); ".toList, "\n\n?".toList⟩, ⟨" \x7delse\x7b ".toList, []⟩]⟩ := by
  have regular : Regular ⟨[.text "\n<".toList, .output (.code "$a".toList), .text [],
      .statement (.code "f()".toList), .text "\n".toList, .text "\n?".toList, .otherwise]⟩ := by
    refine ⟨by decide, ?_, ?_, by decide +kernel, by decide +kernel⟩
    · -- Each block in turn; the texts are no blocks.
      intro other listed noText
      simp only [List.mem_cons, List.not_mem_nil, or_false] at listed
      rcases listed with rfl | rfl | rfl | rfl | rfl | rfl | rfl
      case inl | inr.inr.inl | inr.inr.inr.inr.inl | inr.inr.inr.inr.inr.inl =>
        exact absurd rfl (noText _)
      all_goals decide +kernel
    · intro content listed body declared
      have plain : ¬ "<?xml".toList <:+: content := by
        simp only [List.mem_cons, Program.Instruction.text.injEq, reduceCtorEq, List.not_mem_nil,
          or_false, false_or] at listed
        rcases listed with rfl | rfl | rfl | rfl <;> decide
      exact plain ((List.prefix_append _ _).isInfix.trans declared)
  exact ⟨regular, (read_emit _ regular).1⟩

end Stencil.Php
