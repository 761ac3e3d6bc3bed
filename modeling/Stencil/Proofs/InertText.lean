import Stencil.Proofs.CodeMarkers
import Stencil.Proofs.Seams
import Stencil.Proofs.Steps

/-! # Inert text

Every text of a program is made inert by itself, and the artifact is all of them
in a row.  A code marker inside one text is written with entities; a marker that
is *cut*, because one text ends and the next begins inside it, is not.  Of the
cut markers only those are lost that are the two halves of a joint between blocks.

* `Cell` / `cells` — the characters of texts, and where the texts end;
* `IsCut` / `InCutJoint` — markers that are cut, and those that are lost again;
* `emit_texts` — which markers an artifact of texts holds;
* `compile_hasMarker_iff` — which markers the artifact of a template holds that
  is compiled to texts only.
-/

namespace Stencil.Php

open Stencil.Text
open Stencil.Template (Apart normalizeLineEndings)

/-! ## Characters of texts -/

/-- A character of a text. -/
structure Cell where
  letter : Char
  /-- Whether the text ends with it. -/
  last : Bool
  deriving DecidableEq, Repr

/-- The characters of a text. -/
def cells : List Char → List Cell
  | [] => []
  | c :: rest => ⟨c, rest.isEmpty⟩ :: cells rest

/-- Whether no text ends inside a stretch. -/
def IsWhole (stretch : List Cell) : Prop := ∀ cell ∈ stretch.dropLast, cell.last = false

/-- What is written for a marker that stands in one text. -/
def InertCells (stretch : List Cell) (written : List Char) : Prop :=
  Inert (stretch.map Cell.letter) written ∧ IsWhole stretch

/-- A code marker in which one text ends and the next begins. -/
def IsCut (stretch : List Cell) : Prop :=
  IsMarker (stretch.map Cell.letter) ∧ ∃ cell ∈ stretch.dropLast, cell.last = true

instance (stretch : List Cell) : Decidable (IsCut stretch) :=
  inferInstanceAs (Decidable (_ ∧ _))

@[simp] theorem map_letter_cells (text : List Char) : (cells text).map Cell.letter = text := by
  induction text with
  | nil => rfl
  | cons c rest ih => simp [cells, ih]

theorem cells_append (left right : List Char) :
    ∃ stretch, cells (left ++ right) = stretch ++ cells right ∧
      stretch.map Cell.letter = left ∧ IsWhole stretch := by
  induction left with
  | nil => exact ⟨[], rfl, rfl, by simp [IsWhole]⟩
  | cons c left ih =>
    obtain ⟨stretch, split, letters, whole⟩ := ih
    refine ⟨⟨c, (left ++ right).isEmpty⟩ :: stretch, by rw [List.cons_append, cells, split]; rfl,
      by simp [letters], ?_⟩
    cases stretch with
    | nil => simp [IsWhole]
    | cons cell stretch =>
      cases left with
      | nil => cases letters
      | cons d left => simpa [IsWhole] using whole

/-- A whole stretch that begins in a text ends in it. -/
theorem IsWhole.prefix_cells {stretch rest : List Cell} {text : List Char} (whole : IsWhole stretch)
    (filled : text ≠ []) (begins : stretch <+: cells text ++ rest) : stretch <+: cells text := by
  induction text generalizing stretch with
  | nil => exact absurd rfl filled
  | cons c text ih =>
    cases stretch with
    | nil => exact List.nil_prefix
    | cons cell stretch =>
      obtain ⟨rfl, later⟩ := List.cons_prefix_cons.1 begins
      refine List.cons_prefix_cons.2 ⟨rfl, ?_⟩
      cases stretch with
      | nil => exact List.nil_prefix
      | cons next stretch =>
        have inside : text.isEmpty = false := whole _ (.head _)
        refine ih (fun cell listed => whole cell (.tail _ listed)) ?_ later
        rintro rfl
        cases inside

/-- The cells of a text are replaced as the text is, whatever follows it. -/
theorem cells_replaced {text output outputRest : List Char} {rest : List Cell}
    (replaced : Replaced Inert id text output)
    (others : Replaced InertCells Cell.letter rest outputRest) :
    Replaced InertCells Cell.letter (cells text ++ rest) (output ++ outputRest) := by
  -- By the replacement of the text; a marker that reaches out of it is not whole.
  induction replaced with
  | nil => exact others
  | @mark mark tail written output inert later ih =>
    obtain ⟨stretch, split, letters, whole⟩ := cells_append mark tail
    rw [split, List.append_assoc, List.append_assoc]
    exact .mark ⟨letters ▸ inert, whole⟩ ih
  | @other c tail output unmarked later ih =>
    refine .other ?_ ih
    rintro stretch written ⟨inert, whole⟩ begins
    have inText : stretch <+: cells (c :: tail) := whole.prefix_cells (by simp) begins
    have letters := inText.map Cell.letter
    rw [map_letter_cells] at letters
    exact unmarked _ _ inert letters

/-- The cells of texts are replaced as each text is. -/
theorem texts_replaced (texts : List (List Char)) :
    Replaced InertCells Cell.letter (texts.flatMap cells) (texts.flatMap neutralize) := by
  induction texts with
  | nil => exact .nil
  | cons text texts ih => exact cells_replaced (neutralize_replaced text) ih

/-! ## Cut markers -/

section Cuts

variable {before stretch after : List Cell} {marker left right output : List Char}

theorem apart_of_isMarker {other : List Cell} (isMarker : IsMarker (stretch.map Cell.letter))
    (isOther : IsMarker (other.map Cell.letter)) : ¬ BeginsIn other stretch.tail := by
  intro begins
  have letters := begins.map Cell.letter
  rw [List.map_tail] at letters
  exact isMarker.apart isOther letters

theorem same_of_isMarker {other rest : List Cell} (isMarker : IsMarker (stretch.map Cell.letter))
    (isOther : IsMarker (other.map Cell.letter)) (begins : other <+: stretch ++ rest) :
    other = stretch := by
  have letters := begins.map Cell.letter
  rw [List.map_append] at letters
  have lengths := congrArg List.length (isMarker.same isOther letters)
  rw [List.length_map, List.length_map] at lengths
  rcases List.prefix_or_prefix_of_prefix begins (List.prefix_append stretch rest) with
    shorter | longer
  · exact shorter.eq_of_length lengths
  · exact (longer.eq_of_length lengths.symm).symm

theorem inertCells_separate : Separate InertCells where
  apart isMark isOther := apart_of_isMarker isMark.1.isMarker isOther.1.isMarker
  same isMark isOther := same_of_isMarker isMark.1.isMarker isOther.1.isMarker

/-- A marker is kept exactly when it is cut. -/
theorem clear_iff_isCut (isMarker : IsMarker (stretch.map Cell.letter)) :
    Clear InertCells before stretch after ↔ IsCut stretch := by
  constructor
  · -- A marker that is not cut would be replaced itself.
    intro clear
    refine ⟨isMarker, ?_⟩
    by_contra uncut
    have whole : IsWhole stretch := by
      intro cell inside
      by_contra last
      exact uncut ⟨cell, inside, by simpa using last⟩
    obtain ⟨written, inert⟩ := isMarker_iff.1 isMarker
    have filled : stretch ≠ [] := by
      rintro rfl
      exact isMarker.ne_nil rfl
    exact clear.inside _ _ ⟨inert, whole⟩ _ filled (List.suffix_refl _) (List.prefix_append _ _)
  · -- No other marker overlaps it, and it is not whole.
    rintro ⟨-, cell, inside, last⟩
    refine .of_apart fun mark written isMark => ⟨?_, ?_, ?_⟩
    · exact apart_of_isMarker isMarker isMark.1.isMarker
    · exact apart_of_isMarker isMark.1.isMarker isMarker
    · intro begins
      have same := same_of_isMarker isMarker isMark.1.isMarker begins
      have notLast := isMark.2 cell (same ▸ inside)
      rw [last] at notLast
      cases notLast

/-- A marker in the output was cut in the input. -/
theorem exists_cut_of_marker {input : List Cell}
    (replaced : Replaced InertCells Cell.letter input output) (isMarker : IsMarker marker)
    (split : output = left ++ (marker ++ right)) :
    ∃ before stretch after, input = before ++ (stretch ++ after) ∧
      stretch.map Cell.letter = marker ∧ IsCut stretch ∧
      Replaced InertCells Cell.letter before left ∧
      Replaced InertCells Cell.letter after right := by
  obtain ⟨before, stretch, after, same, rfl, first, last, clear⟩ :=
    replaced.arises inertCells_separate isMarker.ne_nil split fun _ _ isMark =>
      ⟨isMark.1.written_not_beginsIn isMarker, isMark.1.not_beginsIn_written isMarker⟩
  exact ⟨before, stretch, after, same, rfl, (clear_iff_isCut isMarker).1 clear, first, last⟩

theorem exists_marker_of_cut {input : List Cell}
    (replaced : Replaced InertCells Cell.letter input output) (isCut : IsCut stretch)
    (split : input = before ++ (stretch ++ after)) :
    ∃ left right, output = left ++ (stretch.map Cell.letter ++ right) ∧
      Replaced InertCells Cell.letter before left ∧
      Replaced InertCells Cell.letter after right :=
  replaced.keeps split ((clear_iff_isCut isCut.1).2 isCut)

/-! ## Joints -/

/-- Whether a cut marker is one half of a joint whose other half is cut, too. -/
def InCutJoint (before stretch after : List Cell) : Prop :=
  (stretch.map Cell.letter = "?>".toList ∧
      ∃ next, next <+: after ∧ next.map Cell.letter = "<?php".toList ∧ IsCut next) ∨
    (stretch.map Cell.letter = "<?php".toList ∧
      ∃ previous, previous <:+ before ∧ previous.map Cell.letter = "?>".toList ∧ IsCut previous)

theorem nil_iff_of_replaced {input : List Cell}
    (replaced : Replaced InertCells Cell.letter input output) : input = [] ↔ output = [] := by
  refine replaced.nil_iff fun mark written isMark => ⟨?_, ?_⟩
  · rintro rfl
    exact isMark.1.isMarker.ne_nil rfl
  · rintro rfl
    exact absurd isMark.1.written_mem (by decide)

theorem marker_prefix_iff (replaced : Replaced InertCells Cell.letter after right)
    (isMarker : IsMarker marker) :
    marker <+: right ↔ ∃ next, next <+: after ∧ next.map Cell.letter = marker ∧ IsCut next := by
  constructor
  · rintro ⟨rest, rfl⟩
    obtain ⟨front, next, back, rfl, letters, isCut, nothing, -⟩ :=
      exists_cut_of_marker replaced isMarker (List.nil_append _).symm
    rw [(nil_iff_of_replaced nothing).2 rfl]
    exact ⟨next, List.prefix_append _ _, letters, isCut⟩
  · rintro ⟨next, ⟨rest, rfl⟩, rfl, isCut⟩
    obtain ⟨front, back, rfl, nothing, -⟩ :=
      exists_marker_of_cut replaced isCut (List.nil_append _).symm
    rw [(nil_iff_of_replaced nothing).1 rfl]
    exact List.prefix_append _ _

theorem marker_suffix_iff (replaced : Replaced InertCells Cell.letter before left)
    (isMarker : IsMarker marker) :
    marker <:+ left ↔
      ∃ previous, previous <:+ before ∧ previous.map Cell.letter = marker ∧ IsCut previous := by
  constructor
  · rintro ⟨rest, rfl⟩
    obtain ⟨front, previous, back, rfl, letters, isCut, -, nothing⟩ :=
      exists_cut_of_marker replaced isMarker (congrArg (rest ++ ·) (List.append_nil _).symm)
    rw [(nil_iff_of_replaced nothing).2 rfl]
    exact ⟨previous, ⟨front, by simp⟩, letters, isCut⟩
  · rintro ⟨previous, ⟨rest, rfl⟩, rfl, isCut⟩
    obtain ⟨front, back, rfl, -, nothing⟩ :=
      exists_marker_of_cut replaced isCut (congrArg (rest ++ ·) (List.append_nil _).symm)
    rw [(nil_iff_of_replaced nothing).1 rfl]
    exact ⟨front, by simp⟩

theorem atJoint_iff (first : Replaced InertCells Cell.letter before left)
    (last : Replaced InertCells Cell.letter after right) :
    AtJoint left (stretch.map Cell.letter) right ↔ InCutJoint before stretch after := by
  unfold AtJoint InCutJoint
  rw [marker_prefix_iff last (by decide), marker_suffix_iff first (by decide)]

/-- The markers that are left of texts are those that are cut and in no joint. -/
theorem hasMarker_joinBlocks_texts_iff (texts : List (List Char)) :
    HasMarker (joinBlocks (texts.flatMap neutralize)) ↔
      ∃ before stretch after, texts.flatMap cells = before ++ (stretch ++ after) ∧
        IsCut stretch ∧ ¬ InCutJoint before stretch after := by
  rw [hasMarker_joinBlocks_iff]
  constructor
  · rintro ⟨left, marker, right, split, isMarker, free⟩
    obtain ⟨before, stretch, after, same, rfl, isCut, first, last⟩ :=
      exists_cut_of_marker (texts_replaced texts) isMarker split
    exact ⟨before, stretch, after, same, isCut,
      fun joint => free ((atJoint_iff first last).2 joint)⟩
  · rintro ⟨before, stretch, after, split, isCut, free⟩
    obtain ⟨left, right, kept, first, last⟩ :=
      exists_marker_of_cut (texts_replaced texts) isCut split
    exact ⟨left, _, right, kept, isCut.1, fun joint => free ((atJoint_iff first last).1 joint)⟩

/-! ## Uncut texts -/

/-- Whether two neighbouring characters, where they belong to different texts, meet
    at one that closes or opens something. -/
def Seam (left right : Cell) : Prop :=
  left.last = true → left.letter ∈ ['}', '>'] ∨ right.letter ∈ ['{', '<']

theorem cells_isChain (text : List Char) : (cells text).IsChain Seam := by
  induction text with
  | nil => exact .nil
  | cons c text ih =>
    refine List.isChain_cons.2 ⟨?_, ih⟩
    intro next first last
    rw [List.isEmpty_iff.1 last] at first
    cases first

/-- Where texts meet at characters that close or open something, so do their
    cells. -/
theorem texts_isChain {texts : List (List Char)} (filled : ∀ text ∈ texts, text ≠ [])
    (apart : texts.IsChain Apart) : (texts.flatMap cells).IsChain Seam := by
  induction texts with
  | nil => exact .nil
  | cons text texts ih =>
    obtain ⟨boundary, apart⟩ := List.isChain_cons.1 apart
    rw [List.flatMap_cons, List.isChain_append]
    refine ⟨cells_isChain text, ih (fun other listed => filled other (.tail _ listed)) apart, ?_⟩
    intro left ends right begins _
    cases texts with
    | nil => cases begins
    | cons next texts =>
      cases next with
      | nil => exact absurd rfl (filled [] (.tail _ (.head _)))
      | cons d next =>
        have leftLetter : text.getLast? = some left.letter := by
          rw [← map_letter_cells text, List.getLast?_map, Option.mem_def.1 ends]
          rfl
        have rightLetter : d = right.letter := congrArg Cell.letter (Option.some.inj begins)
        rcases boundary (d :: next) rfl with ⟨last, isLast, closes⟩ | ⟨first, isFirst, opens⟩
        · rw [leftLetter, Option.mem_some_iff] at isLast
          exact .inl (isLast ▸ closes)
        · rw [List.head?_cons, Option.mem_some_iff] at isFirst
          exact .inr (rightLetter ▸ isFirst ▸ opens)

theorem exists_next {cell : Cell} (inside : cell ∈ stretch.dropLast) :
    ∃ front next back, stretch = front ++ cell :: next :: back := by
  induction stretch with
  | nil => cases inside
  | cons first stretch ih =>
    cases stretch with
    | nil => cases inside
    | cons second stretch =>
      rcases List.mem_cons.1 inside with rfl | later
      · exact ⟨[], second, stretch, rfl⟩
      · obtain ⟨front, next, back, split⟩ := ih later
        exact ⟨first :: front, next, back, by rw [split]; rfl⟩

/-- No marker is cut where texts meet at such characters only. -/
theorem not_isCut_of_isChain (chain : (before ++ (stretch ++ after)).IsChain Seam) :
    ¬ IsCut stretch := by
  rintro ⟨isMarker, cell, inside, last⟩
  -- What closes comes only last in a marker, what opens only first.
  have closed : ∀ lower ∈ codeMarkers, '}' ∉ lower.dropLast ∧ '>' ∉ lower.dropLast ∧
      '{' ∉ lower.tail ∧ '<' ∉ lower.tail := by decide
  obtain ⟨noBrace, noBracket, noOpening, noComment⟩ := closed _ isMarker
  rw [List.map_map, ← List.map_dropLast] at noBrace noBracket
  rw [List.map_map, ← List.map_tail] at noOpening noComment
  obtain ⟨front, next, back, rfl⟩ := exists_next inside
  have seam : Seam cell next :=
    (List.isChain_append_cons_cons.1 chain.right_of_append.left_of_append).2.1
  have follows : next ∈ (front ++ cell :: next :: back).tail := by
    cases front <;> simp
  rcases seam last with closes | opens
  · rcases List.mem_cons.1 closes with brace | bracket
    · exact noBrace (List.mem_map.2 ⟨cell, inside, by simp [brace]⟩)
    · exact noBracket (List.mem_map.2 ⟨cell, inside, by simp [List.mem_singleton.1 bracket]⟩)
  · rcases List.mem_cons.1 opens with opening | comment
    · exact noOpening (List.mem_map.2 ⟨next, follows, by simp [opening]⟩)
    · exact noComment (List.mem_map.2 ⟨next, follows, by simp [List.mem_singleton.1 comment]⟩)

end Cuts

/-! ## Line breaks -/

/-- A carriage return or line feed. -/
def IsBreak (c : Char) : Prop := c = '\r' ∨ c = '\n'

/-- A text and the same text with more line breaks in front of others. -/
inductive MoreBreaks : List Char → List Char → Prop where
  | nil : MoreBreaks [] []
  | keep {c : Char} {text more : List Char} (later : MoreBreaks text more) :
      MoreBreaks (c :: text) (c :: more)
  | insert {c d : Char} {text more : List Char} (added : IsBreak c) (before : IsBreak d)
      (later : MoreBreaks text (d :: more)) : MoreBreaks text (c :: d :: more)

section Breaks

variable {part text more : List Char}

theorem normalizeLineEndings_moreBreaks (source : List Char) :
    MoreBreaks (normalizeLineEndings source) source := by
  fun_induction normalizeLineEndings source with
  | case1 rest ih => exact .insert (.inl rfl) (.inr rfl) (.keep ih)
  | case2 c rest _ ih => exact .keep ih
  | case3 => exact .nil

theorem doubleNewlines_moreBreaks (artifact : List Char) :
    MoreBreaks artifact (doubleNewlines artifact) := by
  have filled : "?>\n".toList ≠ [] := by decide
  have replaced := replaceAll_replaced filled "?>\n\n".toList artifact
  unfold doubleNewlines
  generalize replaceAll "?>\n".toList "?>\n\n".toList artifact = doubled at replaced ⊢
  induction replaced with
  | nil => exact .nil
  | mark isMark _ ih =>
    obtain ⟨rfl, rfl⟩ := isMark
    exact .keep (.keep (.insert (.inr rfl) (.inr rfl) (.keep ih)))
  | other _ _ ih => exact .keep ih

/-- A text without breaks begins both or neither. -/
theorem MoreBreaks.prefix_iff (breaks : MoreBreaks text more) (plain : ∀ c ∈ part, ¬ IsBreak c) :
    part <+: text ↔ part <+: more := by
  induction breaks generalizing part with
  | nil => rfl
  | keep _ ih =>
    cases part with
    | nil => simp
    | cons first part =>
      rw [List.cons_prefix_cons, List.cons_prefix_cons, ih fun c listed => plain c (.tail _ listed)]
  | insert added before _ ih =>
    rw [ih plain]
    cases part with
    | nil => simp
    | cons first part =>
      have apart := plain first (.head _)
      rw [List.cons_prefix_cons, List.cons_prefix_cons]
      constructor
      · rintro ⟨rfl, -⟩
        exact absurd before apart
      · rintro ⟨rfl, -⟩
        exact absurd added apart

theorem MoreBreaks.infix_iff (breaks : MoreBreaks text more) (plain : ∀ c ∈ part, ¬ IsBreak c) :
    part <:+: text ↔ part <:+: more := by
  induction breaks with
  | nil => rfl
  | keep later ih =>
    rw [List.infix_cons_iff, List.infix_cons_iff, (MoreBreaks.keep later).prefix_iff plain, ih]
  | @insert c d text more added before later ih =>
    rw [List.infix_cons_iff, ih]
    have inText := later.prefix_iff plain
    have inMore := (MoreBreaks.insert added before later).prefix_iff plain
    constructor
    · exact .inr
    · rintro (begins | inside)
      · exact (inText.1 (inMore.2 begins)).isInfix
      · exact inside

theorem MoreBreaks.of_append (plain : ∀ c ∈ part, ¬ IsBreak c)
    (breaks : MoreBreaks (part ++ text) more) :
    ∃ rest, more = part ++ rest ∧ MoreBreaks text rest := by
  induction part generalizing more with
  | nil => exact ⟨more, rfl, breaks⟩
  | cons first part ih =>
    have alone : ∀ c ∈ [first], ¬ IsBreak c := fun c listed =>
      plain c (List.mem_singleton.1 listed ▸ .head _)
    obtain ⟨rest, same⟩ := (breaks.prefix_iff alone).1 ⟨part ++ text, rfl⟩
    cases breaks with
    | keep later =>
      obtain ⟨rest, rfl, others⟩ := ih (fun c listed => plain c (.tail _ listed)) later
      exact ⟨rest, rfl, others⟩
    | insert added =>
      obtain ⟨rfl, -⟩ := List.cons.inj same
      exact absurd added (plain first (.head _))

theorem IsMarker.plain {marker : List Char} (isMarker : IsMarker marker) :
    ∀ c ∈ marker, ¬ IsBreak c := by
  have closed : ∀ lower ∈ codeMarkers, '\r' ∉ lower ∧ '\n' ∉ lower := by decide
  obtain ⟨noReturn, noFeed⟩ := closed _ isMarker
  rintro c listed (rfl | rfl)
  · exact noReturn (List.mem_map_of_mem listed)
  · exact noFeed (List.mem_map_of_mem listed)

theorem MoreBreaks.hasMarker_iff (breaks : MoreBreaks text more) :
    HasMarker text ↔ HasMarker more := by
  unfold HasMarker
  constructor
  · rintro ⟨marker, isMarker, inside⟩
    exact ⟨marker, isMarker, (breaks.infix_iff isMarker.plain).1 inside⟩
  · rintro ⟨marker, isMarker, inside⟩
    exact ⟨marker, isMarker, (breaks.infix_iff isMarker.plain).2 inside⟩

end Breaks

/-! ## Artifacts of texts -/

theorem sanitize_of_plain {text : List Char} (plain : ¬ "<?xml".toList <:+: text) :
    sanitize text = neutralize text := by
  rw [sanitize]
  split
  · rename_i before body after found
    simp only [xmlDeclaration?, Option.bind_eq_bind, Option.bind_eq_some_iff] at found
    obtain ⟨⟨start, inside⟩, opened, -⟩ := found
    exact absurd ⟨start, inside, splitFirst?_append opened⟩ plain
  · rfl

/-- The artifact of texts holds the markers that are cut and in no joint. -/
theorem emit_texts {texts : List (List Char)}
    (plain : ∀ text ∈ texts, ¬ "<?xml".toList <:+: text) :
    ∃ rest, emit ⟨texts.map .text⟩ = safetyHeader ++ rest ∧
      (HasMarker rest ↔
        ∃ before stretch after, texts.flatMap cells = before ++ (stretch ++ after) ∧
          IsCut stretch ∧ ¬ InCutJoint before stretch after) := by
  have body : (texts.map Program.Instruction.text).flatMap instruction =
      texts.flatMap neutralize := by
    rw [List.flatMap_map]
    exact List.flatMap_congr fun text listed => sanitize_of_plain (plain text listed)
  have header : ∀ c ∈ safetyHeader, ¬ IsBreak c := by
    intro c listed
    have closed : '\r' ∉ safetyHeader ∧ '\n' ∉ safetyHeader := by decide
    rintro (rfl | rfl)
    · exact closed.1 listed
    · exact closed.2 listed
  obtain ⟨rest, split, breaks⟩ := MoreBreaks.of_append header
    (doubleNewlines_moreBreaks (safetyHeader ++ joinBlocks (texts.flatMap neutralize)))
  refine ⟨rest, ?_, ?_⟩
  · rw [← split, emit, body]
  · rw [← breaks.hasMarker_iff, hasMarker_joinBlocks_texts_iff]

/-! ## Artifacts of templates -/

open Stencil.Program Stencil.Template

theorem exists_kept_of_compile {compiler : Compiler} {source : List Char} {origin : Origin}
    {texts : List (List Char)}
    (compiled : (compiler.compile source origin).result = .ok ⟨texts.map .text⟩) :
    ∃ kept : List Token, kept.Sublist (compiler.tokens source) ∧ texts = kept.map Token.text := by
  obtain ⟨final, ran, -⟩ := compile_ok_iff.1 compiled
  exact exists_kept_of_run ran

/-- The artifact of a template that is compiled to texts holds a code marker after
    its header exactly if a marker is cut by the end of a text and not lost in a
    joint.  That takes text that is dropped. -/
theorem compile_hasMarker_iff (compiler : Compiler) (source : List Char) (origin : Origin)
    (texts : List (List Char)) (plain : ¬ "<?xml".toList <:+: source)
    (compiled : (compiler.compile source origin).result = .ok ⟨texts.map .text⟩) :
    ∃ rest, emit ⟨texts.map .text⟩ = safetyHeader ++ rest ∧
      (HasMarker rest ↔
        ∃ before stretch after, texts.flatMap cells = before ++ (stretch ++ after) ∧
          IsCut stretch ∧ ¬ InCutJoint before stretch after) ∧
      (texts.flatten = normalizeLineEndings source → ¬ HasMarker rest) := by
  obtain ⟨kept, sublist, rfl⟩ := exists_kept_of_compile compiled
  have plainTexts : ∀ text ∈ kept.map Token.text, ¬ "<?xml".toList <:+: text := by
    intro text listed declared
    obtain ⟨token, isKept, rfl⟩ := List.mem_map.1 listed
    have noBreaks : ∀ c ∈ "<?xml".toList, ¬ IsBreak c := by
      rintro c listed (rfl | rfl) <;> exact absurd listed (by decide)
    refine plain (((normalizeLineEndings_moreBreaks source).infix_iff noBreaks).1 ?_)
    rw [← flatMap_text_tokenize compiler.options.stripComments (normalizeLineEndings source)]
    exact declared.trans
      (List.infix_of_mem_flatten (List.mem_map_of_mem (sublist.subset isKept)))
  obtain ⟨rest, artifact, markers⟩ := emit_texts plainTexts
  refine ⟨rest, artifact, markers, fun complete hasMarker => ?_⟩
  obtain ⟨before, stretch, after, split, isCut, -⟩ := markers.1 hasMarker
  -- No token is missing, so that all texts meet as neighbouring tokens do.
  have nonempty : ∀ token ∈ compiler.tokens source, token.text ≠ [] :=
    fun token listed => text_ne_nil_of_mem_tokenize listed
  have all : kept = compiler.tokens source := by
    refine eq_of_sublist nonempty sublist ?_
    rw [Compiler.tokens, flatMap_text_tokenize, ← complete, List.flatMap_def]
  subst all
  have filled : ∀ text ∈ (compiler.tokens source).map Token.text, text ≠ [] := by
    simpa using nonempty
  have chain := texts_isChain filled (tokenize_apart _ _)
  rw [split] at chain
  exact not_isCut_of_isChain chain isCut

/-- A comment that is dropped from the middle of a marker leaves it alive. -/
theorem compile_hasMarker_dropped :
    ¬ "<?xml".toList <:+: "<\x7b*x*\x7d?php phpinfo();".toList ∧
    (Compiler.compile ⟨{}, .empty⟩ "<\x7b*x*\x7d?php phpinfo();".toList (.file [] [])).result =
      .ok ⟨["<".toList, "?php phpinfo();".toList].map .text⟩ ∧
    ∃ rest, emit ⟨["<".toList, "?php phpinfo();".toList].map .text⟩ = safetyHeader ++ rest ∧
      HasMarker rest := by
  have plain : ¬ "<?xml".toList <:+: "<\x7b*x*\x7d?php phpinfo();".toList := by decide
  have compiled : (Compiler.compile ⟨{}, .empty⟩ "<\x7b*x*\x7d?php phpinfo();".toList
      (.file [] [])).result = .ok ⟨["<".toList, "?php phpinfo();".toList].map .text⟩ := by
    decide +kernel
  obtain ⟨rest, artifact, markers, -⟩ := compile_hasMarker_iff _ _ _ _ plain compiled
  have isCut : IsCut (cells "<".toList ++ (cells "?php phpinfo();".toList).take 4) := by decide
  refine ⟨plain, compiled, rest, artifact, markers.2
    ⟨[], _, (cells "?php phpinfo();".toList).drop 4, by decide, isCut, ?_⟩⟩
  rintro (⟨close, -⟩ | ⟨-, previous, before, close, -⟩)
  · exact absurd close (by decide)
  · rw [List.suffix_nil.1 before] at close
    cases close

end Stencil.Php
