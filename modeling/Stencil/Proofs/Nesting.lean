import Stencil.Proofs.Blocks
import Stencil.Proofs.Outputs
import Stencil.Proofs.SyntaxErrors

/-! # The nesting of blocks

The compiler keeps open loops and open conditionals apart.  Loops are properly
nested among each other then, and so are conditionals, but a block may be closed
while one of the other kind that was opened inside it is still open, and a branch
may stand outside all blocks.  What a template has of this its program has, too.

* `Mark` — what tags and instructions are to the blocks around them;
* `Nested` — marks that make up properly nested blocks;
* `Stacked` — marks in which every one fits the innermost open block;
* `compile_nesting` — what the compiler demands of blocks, and what it keeps.
-/

namespace Stencil.Program

open Stencil.Source (LineIndex)
open Stencil.Tag
open Stencil.Template

/-! ## Marks -/

/-- What a tag or an instruction is to the blocks around it. -/
inductive Mark where
  | opens (block : Block)
  | closes (block : Block)
  /-- A branch with a condition of its own. -/
  | elseIf
  /-- The branch that is left. -/
  | otherwise
  deriving DecidableEq, Repr

/-- Whether a mark is one end of a block of a kind. -/
def Mark.bounds (block : Block) (mark : Mark) : Bool :=
  mark = .opens block ∨ mark = .closes block

/-- What an instruction is to blocks. -/
def Instruction.mark? : Instruction → Option Mark
  | .loopOpen _ => some (.opens .loop)
  | .loopClose => some (.closes .loop)
  | .ifOpen _ => some (.opens .conditional)
  | .ifClose => some (.closes .conditional)
  | .elseIf _ => some .elseIf
  | .otherwise => some .otherwise
  | _ => none

/-- What a tag of a kind is to blocks. -/
def markOf? : TagKind → Option Mark
  | .loopOpen => some (.opens .loop)
  | .loopClose => some (.closes .loop)
  | .ifOpen => some (.opens .conditional)
  | .ifClose => some (.closes .conditional)
  | .elseIf => some .elseIf
  | .otherwise => some .otherwise
  | _ => none

/-- The marks of a program. -/
def marks (instructions : List Instruction) : List Mark := instructions.filterMap Instruction.mark?

/-- What a candidate is to blocks. -/
def tagMark? (options : CompileOptions) (token : Token) : Option Mark :=
  (classify? options.caseInsensitiveTags token.text).bind (markOf? ·.kind)

/-- The marks of the active tags among tokens that are reached in a region. -/
def tagMarksFrom (options : CompileOptions) (region : Region) (tokens : List Token) : List Mark :=
  (activeFrom options region tokens).filterMap (tagMark? options)

/-- The marks of the active tags, in the order of the template. -/
def tagMarks (options : CompileOptions) (tokens : List Token) : List Mark :=
  tagMarksFrom options .markup tokens

/-! ## Properly nested blocks -/

/-- Marks that stand directly inside a block, or outside all blocks, and make up
    properly nested blocks with branches in their places. -/
inductive Nested : Option Block → List Mark → Prop where
  | nil {around : Option Block} : Nested around []
  | block {around : Option Block} {block : Block} {body rest : List Mark}
      (inside : Nested (some block) body) (later : Nested around rest) :
      Nested around (.opens block :: (body ++ .closes block :: rest))
  | elseIf {rest : List Mark} (later : Nested (some .conditional) rest) :
      Nested (some .conditional) (.elseIf :: rest)
  | otherwise {block : Block} {rest : List Mark} (later : Nested (some block) rest) :
      Nested (some block) (.otherwise :: rest)

/-- Going through marks with the open blocks, innermost first, every end is the
    end of the innermost one, every branch stands in it, and none is left open. -/
def Stacked : List Block → List Mark → Prop
  | isOpen, [] => isOpen = []
  | isOpen, .opens block :: rest => Stacked (block :: isOpen) rest
  | isOpen, .closes block :: rest => isOpen.head? = some block ∧ Stacked isOpen.tail rest
  | isOpen, .elseIf :: rest => isOpen.head? = some .conditional ∧ Stacked isOpen rest
  | isOpen, .otherwise :: rest => isOpen ≠ [] ∧ Stacked isOpen rest

/-- Marks that close the open blocks one after the other, with properly nested
    ones before each end and at the very end. -/
inductive Unwinds : List Block → List Mark → Prop where
  | done {marks : List Mark} (nested : Nested none marks) : Unwinds [] marks
  | closes {block : Block} {outer : List Block} {body rest : List Mark}
      (inside : Nested (some block) body) (later : Unwinds outer rest) :
      Unwinds (block :: outer) (body ++ .closes block :: rest)

section Nesting

variable {around : Option Block} {block : Block} {isOpen outer : List Block}
  {body rest marks : List Mark}

/-- Properly nested marks lead back to the blocks that are open before them. -/
theorem Nested.stacked_append (nested : Nested around marks) (directly : isOpen.head? = around)
    (later : Stacked isOpen rest) : Stacked isOpen (marks ++ rest) := by
  induction nested generalizing isOpen rest with
  | nil => exact later
  | @block around block body behind _ _ insideBody behindBody =>
    show Stacked (block :: isOpen) ((body ++ .closes block :: behind) ++ rest)
    rw [List.append_assoc]
    exact insideBody rfl ⟨rfl, behindBody directly later⟩
  | elseIf _ ih => exact ⟨directly, ih directly later⟩
  | otherwise _ ih =>
    refine ⟨?_, ih directly later⟩
    rintro rfl
    cases directly

theorem Unwinds.prepend (inside : Nested (some block) body) (later : Unwinds isOpen rest) :
    Unwinds isOpen (.opens block :: (body ++ .closes block :: rest)) := by
  cases later with
  | done nested => exact .done (.block inside nested)
  | @closes other outer front behind directly later =>
    have longer : Nested (some other) (.opens block :: (body ++ .closes block :: front)) :=
      .block inside directly
    have whole := Unwinds.closes longer later
    rw [List.cons_append, List.append_assoc] at whole
    exact whole

theorem unwinds_of_stacked (stacked : Stacked isOpen marks) : Unwinds isOpen marks := by
  induction marks generalizing isOpen with
  | nil =>
    obtain rfl : isOpen = [] := stacked
    exact .done .nil
  | cons mark rest ih =>
    cases mark with
    | opens block =>
      cases ih stacked with
      | closes inside later => exact later.prepend inside
    | closes block =>
      obtain ⟨innermost, later⟩ := stacked
      obtain ⟨outer, rfl⟩ := List.head?_eq_some_iff.1 innermost
      exact .closes .nil (ih later)
    | elseIf =>
      obtain ⟨innermost, later⟩ := stacked
      obtain ⟨outer, rfl⟩ := List.head?_eq_some_iff.1 innermost
      cases ih later with
      | closes inside behind => exact .closes (.elseIf inside) behind
    | otherwise =>
      obtain ⟨filled, later⟩ := stacked
      obtain ⟨block, outer, rfl⟩ := List.exists_cons_of_ne_nil filled
      cases ih later with
      | closes inside behind => exact .closes (.otherwise inside) behind

/-- A single stack of open blocks tells whether blocks are properly nested. -/
theorem nested_iff_stacked : Nested none marks ↔ Stacked [] marks := by
  constructor
  · intro nested
    have stacked : Stacked [] (marks ++ []) := nested.stacked_append rfl rfl
    rwa [List.append_nil] at stacked
  · intro stacked
    cases unwinds_of_stacked stacked with
    | done nested => exact nested

end Nesting

/-! ## Blocks of one kind -/

/-- The blocks of one kind that instructions close are the innermost open ones of
    that kind. -/
theorem Walk.stacked {allowed : Bool} {start finish : Depth} {instructions : List Instruction}
    (walk : Walk allowed start instructions finish) (block : Block)
    (ends : finish.count block = 0) :
    Stacked (List.replicate (start.count block) block)
      ((marks instructions).filter (·.bounds block)) := by
  induction walk with
  | nil =>
    rw [ends]
    rfl
  | @cons start middle finish instruction rest step _ ih =>
    have later := ih ends
    cases step with
    | plain role => cases instruction <;> first | exact later | cases role
    | text => exact later
    | _ => cases block <;> first | exact later | exact ⟨rfl, later⟩

/-- The mark of a tag that opens or closes a block. -/
def BlockTag.mark (tag : BlockTag) : Mark :=
  if tag.opens then .opens tag.block else .closes tag.block

theorem openers_cons (block : Block) (tag : BlockTag) (tags : List BlockTag) :
    openers block (tag :: tags) =
      openers block tags + if tag.block = block ∧ tag.opens = true then 1 else 0 := by
  simp [openers, List.countP_cons]

theorem closers_cons (block : Block) (tag : BlockTag) (tags : List BlockTag) :
    closers block (tag :: tags) =
      closers block tags + if tag.block = block ∧ tag.opens = false then 1 else 0 := by
  simp [closers, List.countP_cons]

/-- The number of open blocks after a tag, from which the other tags go on. -/
theorem exists_depth_of_stacked {block : Block} {tag : BlockTag} {tags : List BlockTag}
    {depth : Nat}
    (stacked : Stacked (List.replicate depth block)
      (((tag :: tags).map BlockTag.mark).filter (·.bounds block))) :
    ∃ next, Stacked (List.replicate next block)
        ((tags.map BlockTag.mark).filter (·.bounds block)) ∧
      next + (if tag.block = block ∧ tag.opens = false then 1 else 0) =
        depth + if tag.block = block ∧ tag.opens = true then 1 else 0 := by
  rw [List.map_cons, List.filter_cons] at stacked
  by_cases same : tag.block = block
  · cases opens : tag.opens with
    | true =>
      have mark : tag.mark = .opens block := by simp [BlockTag.mark, same, opens]
      rw [mark, if_pos (by simp [Mark.bounds])] at stacked
      exact ⟨depth + 1, stacked, by simp [same]⟩
    | false =>
      have mark : tag.mark = .closes block := by simp [BlockTag.mark, same, opens]
      rw [mark, if_pos (by simp [Mark.bounds])] at stacked
      obtain ⟨innermost, later⟩ := stacked
      cases depth with
      | zero => cases innermost
      | succ depth => exact ⟨depth, later, by simp [same]⟩
  · have other : ¬ tag.mark.bounds block = true := by
      cases opens : tag.opens <;> simp [BlockTag.mark, Mark.bounds, same, opens]
    rw [if_neg other] at stacked
    exact ⟨depth, stacked, by simp [same]⟩

/-- Blocks of one kind that are closed innermost first are closed as often as they
    are opened, and never before. -/
theorem counts_of_stacked {block : Block} {tags : List BlockTag} {depth : Nat}
    (stacked : Stacked (List.replicate depth block)
      ((tags.map BlockTag.mark).filter (·.bounds block))) :
    (∀ before, before <+: tags → closers block before ≤ depth + openers block before) ∧
      closers block tags = depth + openers block tags := by
  induction tags generalizing depth with
  | nil =>
    obtain rfl : depth = 0 := by simpa [Stacked] using stacked
    simp [openers, closers]
  | cons tag tags ih =>
    obtain ⟨next, later, counted⟩ := exists_depth_of_stacked stacked
    obtain ⟨front, whole⟩ := ih later
    rw [openers_cons, closers_cons]
    refine ⟨fun before begins => ?_, by omega⟩
    rcases List.prefix_cons_iff.1 begins with rfl | ⟨start, rfl, inside⟩
    · exact Nat.zero_le _
    · have earlier := front start inside
      rw [openers_cons, closers_cons]
      omega

/-! ## The compiler's marks -/

section Steps

variable {compiler : Compiler} {origin : Origin} {lines : LineIndex} {state final : State}
  {token : Token} {tokens : List Token} {effect : Effect} {instructions : List Instruction}

theorem marks_append (left right : List Instruction) :
    marks (left ++ right) = marks left ++ marks right :=
  List.filterMap_append

theorem marks_settled {options : CompileOptions} {region : Region} {text : List Char}
    (settled : Settled options region text instructions) : marks instructions = [] := by
  cases settled <;> rfl

theorem marks_customTags (text : List Char) : marks (compiler.customTags text) = [] := by
  unfold Compiler.customTags
  split
  · rfl
  · simp [marks, Instruction.mark?]

/-- A tag writes what it is to blocks. -/
theorem marks_ordinaryTag {span : Source.Span} {found : TagMatch}
    (tagged : compiler.ordinaryTag origin lines state span found = .ok effect) :
    marks effect.instructions = (markOf? found.kind).toList := by
  have effects := ordinaryTag_effect tagged
  generalize effect.state = next, effect.instructions = written at effects
  cases effects with
  | regionEnd kind =>
    simp only [List.mem_cons, List.not_mem_nil, or_false] at kind
    rcases kind with kind | kind | kind <;> simp [kind, marks, markOf?, Instruction.mark?]
  | output printed => cases printed <;> simp_all [marks, markOf?, Instruction.mark?]
  | _ => simp_all [marks, markOf?, Instruction.mark?]

theorem marks_step (stepped : compiler.step origin lines state token = .ok effect) :
    marks effect.instructions =
      (if IsActive compiler.options state.region token then tagMark? compiler.options token
        else none).toList := by
  have outcome := step_outcome compiler origin lines state token
  rw [stepped] at outcome
  cases outcome with
  | comment kind =>
    have passive : ¬ IsActive compiler.options state.region token := by simp [IsActive, kind]
    rw [if_neg passive]
    rfl
  | literal kind =>
    have passive : ¬ IsActive compiler.options state.region token := by simp [IsActive, kind]
    rw [if_neg passive]
    dsimp only
    split <;> rfl
  | settled kind settled =>
    have passive : ¬ IsActive compiler.options state.region token := by
      simp [isActive_iff kind, settled]
    rw [if_neg passive]
    exact marks_settled (settled_cases settled)
  | @tag found _ kind left classified =>
    have active := (isActive_iff kind).2 left
    rw [step_of_active active classified] at stepped
    rw [if_pos active, tagMark?, classified]
    exact marks_ordinaryTag stepped
  | custom kind left unclassified =>
    simp only [tagMark?, unclassified, Option.bind_none, ite_self]
    exact marks_customTags token.text

/-- A run writes the marks of the active tags on its way. -/
theorem marks_run (permitted : Permitted compiler.options state.region)
    (ran : (compiler.run origin lines state tokens).result = .ok (final, instructions)) :
    marks instructions = tagMarksFrom compiler.options state.region tokens := by
  induction tokens generalizing state instructions with
  | nil =>
    obtain ⟨-, rfl⟩ := run_nil_ok_iff.1 ran
    rfl
  | cons token tokens ih =>
    obtain ⟨effect, later, stepped, rest, rfl⟩ := run_cons_ok_iff.1 ran
    rw [marks_append, marks_step stepped, ih (permitted_step permitted stepped) rest,
      step_region permitted stepped]
    exact (filterMap_activeFrom_cons _ _ _ _ _).symm

end Steps

/-! ## Whole templates -/

/-- The tags that bound blocks of one kind are those that are looked at for errors. -/
theorem filter_tagMarks (options : CompileOptions) (tokens : List Token) (block : Block) :
    (tagMarks options tokens).filter (·.bounds block) =
      ((blockTags options tokens).map BlockTag.mark).filter (·.bounds block) := by
  have same (token : Token) : (tagMark? options token).filter (·.bounds block) =
      ((blockTag? options token).map BlockTag.mark).filter (·.bounds block) := by
    unfold tagMark? blockTag?
    cases classified : classify? options.caseInsensitiveTags token.text with
    | none => rfl
    | some found =>
      cases kind : found.kind <;>
        simp [kind, markOf?, TagKind.opensBlock?, TagKind.closesBlock?, BlockTag.mark,
          Mark.bounds]
  simp only [tagMarks, tagMarksFrom, blockTags, blockTagsFrom, List.map_filterMap,
    List.filter_filterMap, same]

theorem balanced_of_nested {options : CompileOptions} {tokens : List Token} {block : Block}
    (nested : Nested none ((tagMarks options tokens).filter (·.bounds block))) :
    Balanced block (blockTags options tokens) := by
  rw [filter_tagMarks, nested_iff_stacked] at nested
  have counts := @counts_of_stacked block (blockTags options tokens) 0 nested
  simpa [Balanced] using counts

/-- A program has the marks of its template, and its blocks of each kind are properly
    nested. -/
theorem marks_compile {compiler : Compiler} {source : List Char} {origin : Origin}
    {program : Program} (compiled : (compiler.compile source origin).result = .ok program) :
    marks program.instructions = tagMarks compiler.options (compiler.tokens source) ∧
      ∀ block, Nested none ((marks program.instructions).filter (·.bounds block)) := by
  obtain ⟨final, ran, closed⟩ := compile_ok_iff.1 compiled
  refine ⟨@marks_run _ _ _ {} _ _ _ (permitted_markup _) ran, fun block => ?_⟩
  have walk : Walk compiler.options.allowRawCode ⟨0, 0, false⟩ program.instructions final.depth :=
    @run_walk _ _ _ {} _ _ _ (permitted_markup _) ran
  have ends : final.depth.count block = 0 := by
    have none := closed block
    cases block <;> simpa [Depth.count, State.depth, State.spans] using none
  have stacked := walk.stacked block ends
  rw [nested_iff_stacked]
  cases block <;> exact stacked

/-- A template is compiled exactly when its loops are properly nested among each
    other and its conditionals are.  The program has the blocks and branches of the
    template, in their order; they are properly nested all together exactly when
    each tag that closes a block or begins a branch fits the innermost open block. -/
theorem compile_nesting (compiler : Compiler) (source : List Char) (origin : Origin) :
    let tags := tagMarks compiler.options (compiler.tokens source)
    ((∃ program, (compiler.compile source origin).result = .ok program) ↔
      ∀ block, Nested none (tags.filter (·.bounds block))) ∧
    ∀ program, (compiler.compile source origin).result = .ok program →
      marks program.instructions = tags ∧
      (∀ block, Nested none ((marks program.instructions).filter (·.bounds block))) ∧
      (Nested none (marks program.instructions) ↔ Stacked [] tags) := by
  intro tags
  refine ⟨⟨?_, fun nested => ?_⟩, fun program compiled => ?_⟩
  · rintro ⟨program, compiled⟩
    obtain ⟨same, nested⟩ := marks_compile compiled
    rwa [same] at nested
  · cases result : (compiler.compile source origin).result with
    | ok program => exact ⟨program, rfl⟩
    | error error =>
      obtain ⟨token, fault⟩ := compile_eq_error_iff.1 result
      exact absurd ⟨balanced_of_nested (nested .loop), balanced_of_nested (nested .conditional)⟩
        (exists_fault_iff.1 ⟨error, token, fault⟩)
  · obtain ⟨same, nested⟩ := marks_compile compiled
    refine ⟨same, nested, ?_⟩
    rw [same]
    exact nested_iff_stacked

/-- A loop with a branch inside a conditional with one. -/
theorem compile_nesting_branches :
    let source := ("\x7bif=\"$a\"\x7d\x7bloop=\"$b\"\x7d\x7belse\x7d\x7b/loop\x7d" ++
      "\x7belseif=\"$c\"\x7d\x7b/if\x7d").toList
    let program : Program := ⟨[.ifOpen (.code "$a".toList),
      .loopOpen ⟨1, .direct "$b".toList, "$key1".toList, "$value1".toList⟩, .otherwise, .loopClose,
      .elseIf (.code "$c".toList), .ifClose]⟩
    (Compiler.compile ⟨{}, .empty⟩ source (.file [] [])).result = .ok program ∧
      Nested none (marks program.instructions) := by
  intro source program
  have compiled : (Compiler.compile ⟨{}, .empty⟩ source (.file [] [])).result = .ok program := by
    decide +kernel
  obtain ⟨same, -, whole⟩ := (compile_nesting _ _ _).2 program compiled
  refine ⟨compiled, whole.2 ?_⟩
  rw [← same]
  exact ⟨by decide, rfl, rfl, rfl, rfl⟩

/-- A conditional may be closed around the end of a loop, and branches may stand
    where they belong to nothing. -/
theorem compile_not_nested :
    let crossing : Program := ⟨[.ifOpen (.code "$a".toList),
      .loopOpen ⟨1, .direct "$b".toList, "$key1".toList, "$value1".toList⟩, .ifClose, .loopClose]⟩
    let branch : Program := ⟨[.otherwise]⟩
    let inLoop : Program := ⟨[
      .loopOpen ⟨1, .direct "$b".toList, "$key1".toList, "$value1".toList⟩,
      .elseIf (.code "$a".toList), .loopClose]⟩
    ((Compiler.compile ⟨{}, .empty⟩
        "\x7bif=\"$a\"\x7d\x7bloop=\"$b\"\x7d\x7b/if\x7d\x7b/loop\x7d".toList
        (.file [] [])).result = .ok crossing ∧ ¬ Nested none (marks crossing.instructions)) ∧
    ((Compiler.compile ⟨{}, .empty⟩ "\x7belse\x7d".toList (.file [] [])).result = .ok branch ∧
      ¬ Nested none (marks branch.instructions)) ∧
    ((Compiler.compile ⟨{}, .empty⟩
        "\x7bloop=\"$b\"\x7d\x7belseif=\"$a\"\x7d\x7b/loop\x7d".toList
        (.file [] [])).result = .ok inLoop ∧ ¬ Nested none (marks inLoop.instructions)) := by
  intro crossing branch inLoop
  simp only [nested_iff_stacked]
  refine ⟨⟨by decide +kernel, ?_⟩, ⟨by decide +kernel, ?_⟩, ⟨by decide +kernel, ?_⟩⟩
  · rintro ⟨innermost, -⟩
    cases innermost
  · rintro ⟨filled, -⟩
    exact filled rfl
  · rintro ⟨innermost, -⟩
    cases innermost

end Stencil.Program
