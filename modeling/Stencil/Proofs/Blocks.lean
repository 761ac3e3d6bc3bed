import Mathlib.Data.List.Nodup
import Stencil.Proofs.Regions

/-! # The block structure of compiled programs

The instructions of a program open and close loops, conditionals and raw code.
A `Depth` is what is left of the compiler's state when all but the number of
open blocks is forgotten; the compiler moves between depths exactly as the
instructions that it writes do (`run_walk`), and whatever holds of all walks
between depths holds of every program.

* `Advances` / `Walk` — depths before and after instructions;
* `BlockStructure` — the structure of a program;
* `compile_blockStructure` — every compiled program has it.
-/

namespace Stencil.Program

open Stencil.Source (LineIndex)
open Stencil.Tag
open Stencil.Template
open Stencil.Text (decimal)

/-! ## Counting blocks -/

/-- The block that an instruction opens. -/
def Instruction.opens? : Instruction → Option Block
  | .loopOpen _ => some .loop
  | .ifOpen _ => some .conditional
  | _ => none

/-- The block that an instruction closes. -/
def Instruction.closes? : Instruction → Option Block
  | .loopClose => some .loop
  | .ifClose => some .conditional
  | _ => none

/-- How many blocks of a kind are opened. -/
def opened (block : Block) (instructions : List Instruction) : Nat :=
  instructions.countP (·.opens? = some block)

/-- How many blocks of a kind are closed. -/
def closed (block : Block) (instructions : List Instruction) : Nat :=
  instructions.countP (·.closes? = some block)

theorem opened_cons (block : Block) (instruction : Instruction) (rest : List Instruction) :
    opened block (instruction :: rest) = opened block [instruction] + opened block rest := by
  simp [opened, List.countP_cons, Nat.add_comm]

theorem closed_cons (block : Block) (instruction : Instruction) (rest : List Instruction) :
    closed block (instruction :: rest) = closed block [instruction] + closed block rest := by
  simp [closed, List.countP_cons, Nat.add_comm]

/-- The open loops after an instruction, innermost first. -/
def Instruction.track (loops : List Loop) : Instruction → List Loop
  | .loopOpen header => header :: loops
  | .loopClose => loops.tail
  | _ => loops

theorem Instruction.track_of_plain {instruction : Instruction} {loops : List Loop}
    (role : instruction.role = .plain) : Instruction.track loops instruction = loops := by
  cases instruction <;> first | rfl | cases role

/-- The loops that are open at the end of instructions, innermost first. -/
def openLoops (instructions : List Instruction) : List Loop :=
  instructions.foldl Instruction.track []

/-- The name of a loop's key unless its tag names another. -/
def Loop.defaultKey (header : Loop) : List Char := "$key".toList ++ decimal header.level

/-- The name of a loop's value unless its tag names another. -/
def Loop.defaultValue (header : Loop) : List Char := "$value".toList ++ decimal header.level

/-- The names for key, value and counter that a loop binds unless its tag names
    others. -/
def Loop.defaultNames (header : Loop) : List (List Char) :=
  [header.defaultKey, header.defaultValue, header.counter]

/-- The key and the value of a loop have the names that its tag gives them, and else the
    default names.  A tag that gives one name gives it to the value. -/
structure Loop.NamedBy (header : Loop) (found : TagMatch) : Prop where
  bare : found.argument? 2 = none →
    header.key = header.defaultKey ∧ header.value = header.defaultValue
  single : ∀ value, found.argument? 2 = some value → found.argument? 3 = none →
    header.key = header.defaultKey ∧ header.value = value
  pair : ∀ key value, found.argument? 2 = some key → found.argument? 3 = some value →
    header.key = key ∧ header.value = value

/-! ## The structure of a program -/

/-- Instructions in which raw code is opened and closed in turn, with nothing but
    text in between.  The last raw code may go on to the end. -/
inductive RawCodeBlocks : List Instruction → Prop where
  | nil : RawCodeBlocks []
  | cons {instruction : Instruction} {rest : List Instruction}
      (outside : instruction.role ≠ .rawCode) (later : RawCodeBlocks rest) :
      RawCodeBlocks (instruction :: rest)
  | closed {texts rest : List Instruction}
      (copied : ∀ instruction ∈ texts, instruction.role = .text) (later : RawCodeBlocks rest) :
      RawCodeBlocks (.rawCodeOpen :: (texts ++ .rawCodeClose :: rest))
  | unclosed {texts : List Instruction}
      (copied : ∀ instruction ∈ texts, instruction.role = .text) :
      RawCodeBlocks (.rawCodeOpen :: texts)

theorem RawCodeBlocks.copy {content : List Char} {rest : List Instruction}
    (blocks : RawCodeBlocks (.rawCodeOpen :: rest)) :
    RawCodeBlocks (.rawCodeOpen :: .text content :: rest) := by
  cases blocks with
  | cons outside => exact absurd rfl outside
  | @closed texts later copied closing =>
    have copies : ∀ instruction ∈ .text content :: texts, instruction.role = .text := by
      simpa [Instruction.role] using copied
    exact .closed copies closing
  | unclosed copied => exact .unclosed (by simpa [Instruction.role] using copied)

/-- The block structure of a program. -/
structure BlockStructure (instructions : List Instruction) : Prop where
  /-- Nothing is closed that is not open. -/
  nested : ∀ block before, before <+: instructions → closed block before ≤ opened block before
  /-- Everything that is opened is closed. -/
  balanced : ∀ block, closed block instructions = opened block instructions
  /-- A loop's level is its depth. -/
  level : ∀ before header after, instructions = before ++ .loopOpen header :: after →
    header.level = 1 + (opened .loop before - closed .loop before)
  /-- Loops that are open together have different names. -/
  names : ∀ before, before <+: instructions →
    ((openLoops before).flatMap Loop.defaultNames).Nodup
  rawCode : RawCodeBlocks instructions

/-! ## Depths -/

/-- How many blocks are open, and whether raw code is. -/
structure Depth where
  loops : Nat
  conditionals : Nat
  rawCode : Bool
  deriving DecidableEq, Repr

/-- The number of open blocks of a kind. -/
def Depth.count (depth : Depth) : Block → Nat
  | .loop => depth.loops
  | .conditional => depth.conditionals

/-- The depth at which the compiler stands. -/
def State.depth (state : State) : Depth :=
  ⟨state.loops.length, state.conditionals.length, state.region = .rawCode⟩

/-- What an instruction does to the depth.  Raw code holds only text, and is
    there only if it is allowed. -/
inductive Advances (allowed : Bool) : Depth → Instruction → Depth → Prop where
  | loopOpen {loops conditionals : Nat} {header : Loop} (level : header.level = loops + 1) :
      Advances allowed ⟨loops, conditionals, false⟩ (.loopOpen header)
        ⟨loops + 1, conditionals, false⟩
  | loopClose {loops conditionals : Nat} :
      Advances allowed ⟨loops + 1, conditionals, false⟩ .loopClose ⟨loops, conditionals, false⟩
  | ifOpen {loops conditionals : Nat} {condition : Expr} :
      Advances allowed ⟨loops, conditionals, false⟩ (.ifOpen condition)
        ⟨loops, conditionals + 1, false⟩
  | ifClose {loops conditionals : Nat} :
      Advances allowed ⟨loops, conditionals + 1, false⟩ .ifClose ⟨loops, conditionals, false⟩
  | rawCodeOpen {loops conditionals : Nat} (permitted : allowed = true) :
      Advances allowed ⟨loops, conditionals, false⟩ .rawCodeOpen ⟨loops, conditionals, true⟩
  | rawCodeClose {loops conditionals : Nat} :
      Advances allowed ⟨loops, conditionals, true⟩ .rawCodeClose ⟨loops, conditionals, false⟩
  | text {depth : Depth} {content : List Char} : Advances allowed depth (.text content) depth
  | plain {loops conditionals : Nat} {instruction : Instruction}
      (role : instruction.role = .plain) :
      Advances allowed ⟨loops, conditionals, false⟩ instruction ⟨loops, conditionals, false⟩

/-- The way that instructions lead from one depth to another. -/
inductive Walk (allowed : Bool) : Depth → List Instruction → Depth → Prop where
  | nil {depth : Depth} : Walk allowed depth [] depth
  | cons {start middle finish : Depth} {instruction : Instruction} {rest : List Instruction}
      (first : Advances allowed start instruction middle)
      (later : Walk allowed middle rest finish) :
      Walk allowed start (instruction :: rest) finish

section Walks

variable {allowed : Bool} {start middle finish : Depth} {instruction : Instruction}
  {left right instructions : List Instruction}

theorem Walk.single (first : Advances allowed start instruction finish) :
    Walk allowed start [instruction] finish :=
  .cons first .nil

theorem Walk.append (first : Walk allowed start left middle)
    (later : Walk allowed middle right finish) : Walk allowed start (left ++ right) finish := by
  induction first with
  | nil => exact later
  | cons step _ ih => exact .cons step (ih later)

theorem Walk.split (walk : Walk allowed start (left ++ right) finish) :
    ∃ middle, Walk allowed start left middle ∧ Walk allowed middle right finish := by
  induction left generalizing start with
  | nil => exact ⟨start, .nil, walk⟩
  | cons instruction left ih =>
    cases walk with
    | cons step rest =>
      obtain ⟨middle, first, later⟩ := ih rest
      exact ⟨middle, .cons step first, later⟩

/-- Instructions that have no influence on the rest keep the depth. -/
theorem Walk.passive
    (passive : ∀ instruction ∈ instructions, (∃ content, instruction = .text content) ∨
      start.rawCode = false ∧ instruction.role = .plain) :
    Walk allowed start instructions start := by
  induction instructions with
  | nil => exact .nil
  | cons instruction rest ih =>
    refine .cons ?_ (ih fun other listed => passive other (.tail _ listed))
    rcases passive instruction (.head _) with ⟨content, rfl⟩ | ⟨outside, role⟩
    · exact .text
    · obtain ⟨loops, conditionals, rawCode⟩ := start
      cases outside
      exact .plain role

/-! ## What holds of all walks -/

theorem Advances.count (step : Advances allowed start instruction finish) (block : Block) :
    start.count block + opened block [instruction] =
      finish.count block + closed block [instruction] := by
  cases step with
  | plain role =>
    cases instruction <;> simp_all [Instruction.role, opened, closed, Instruction.opens?,
      Instruction.closes?]
  | _ =>
    cases block <;> simp [Depth.count, opened, closed, Instruction.opens?, Instruction.closes?]

/-- The open blocks at the end are those at the start and those opened since,
    less those closed since. -/
theorem Walk.count (walk : Walk allowed start instructions finish) (block : Block) :
    start.count block + opened block instructions =
      finish.count block + closed block instructions := by
  induction walk with
  | nil => rfl
  | @cons start middle finish instruction rest step _ ih =>
    have first := step.count block
    rw [opened_cons, closed_cons]
    omega

/-- The levels of the open loops count down to one. -/
theorem Walk.levels (walk : Walk allowed start instructions finish) {loops : List Loop}
    (levels : loops.map Loop.level = (List.range' 1 start.loops).reverse) :
    (instructions.foldl Instruction.track loops).map Loop.level =
      (List.range' 1 finish.loops).reverse := by
  induction walk generalizing loops with
  | nil => exact levels
  | cons step _ ih =>
    refine ih ?_
    cases step with
    | loopOpen level =>
      simp [Instruction.track, levels, level, List.range'_1_concat, Nat.add_comm]
    | loopClose =>
      simpa [Instruction.track, List.range'_1_concat] using congrArg List.tail levels
    | plain role => rwa [Instruction.track_of_plain role]
    | _ => exact levels

/-- Raw code is opened and closed in turn.  A walk that starts inside raw code
    copies text up to its end. -/
theorem Walk.rawCodeBlocks (walk : Walk allowed start instructions finish) :
    (start.rawCode = false → RawCodeBlocks instructions) ∧
    (start.rawCode = true → RawCodeBlocks (.rawCodeOpen :: instructions)) := by
  -- Both at once: behind a start the second one is needed, behind an end the first.
  induction walk with
  | nil => exact ⟨fun _ => .nil, fun _ => .unclosed (by simp)⟩
  | @cons start middle finish instruction rest step _ ih =>
    constructor
    · intro outside
      cases step with
      | rawCodeOpen => exact ih.2 rfl
      | rawCodeClose => cases outside
      | text => exact .cons (by simp [Instruction.role]) (ih.1 outside)
      | plain role => exact .cons (by simp [role]) (ih.1 rfl)
      | _ => exact .cons (by simp [Instruction.role]) (ih.1 rfl)
    · intro inside
      cases step with
      | rawCodeClose =>
        have none : ∀ instruction ∈ ([] : List Instruction), instruction.role = .text := by simp
        exact .closed none (ih.1 rfl)
      | text => exact (ih.2 inside).copy
      | _ => cases inside

theorem Walk.no_rawCode (walk : Walk false start instructions finish)
    (outside : start.rawCode = false) :
    ∀ instruction ∈ instructions, instruction.role ≠ .rawCode := by
  induction walk with
  | nil => simp
  | cons step _ ih =>
    cases step with
    | rawCodeOpen permitted => cases permitted
    | rawCodeClose => cases outside
    | text => simpa [Instruction.role] using ih outside
    | plain role => simpa [role] using ih rfl
    | _ => simpa [Instruction.role] using ih rfl

end Walks

/-! ## Names of loops -/

theorem decimal_injective : Function.Injective decimal := by
  intro m n same
  rw [← Nat.ofDigitChars_ten_toDigits (n := m), ← Nat.ofDigitChars_ten_toDigits (n := n)]
  exact congrArg (Nat.ofDigitChars 10 · 0) same

theorem namedBy_loopHeader (found : TagMatch) (level : Nat) :
    (loopHeader found level).NamedBy found := by
  -- The header asks for the same two arguments.
  constructor
  case bare =>
    intro unnamed
    rw [loopHeader, unnamed]
    exact ⟨rfl, rfl⟩
  case single =>
    intro value named unnamed
    rw [loopHeader, named, unnamed]
    exact ⟨rfl, rfl⟩
  case pair =>
    intro key value keyNamed valueNamed
    rw [loopHeader, keyNamed, valueNamed]
    exact ⟨rfl, rfl⟩

/-- A loop is opened by a tag of its own, which names it. -/
theorem namedBy_of_step {compiler : Compiler} {origin : Origin} {lines : LineIndex} {state : State}
    {token : Token} {effect : Effect} {header : Loop}
    (stepped : compiler.step origin lines state token = .ok effect)
    (opens : .loopOpen header ∈ effect.instructions) :
    effect.instructions = [.loopOpen header] ∧ IsActive compiler.options state.region token ∧
      ∃ found, classify? compiler.options.caseInsensitiveTags token.text = some found ∧
        found.kind = .loopOpen ∧ header.NamedBy found := by
  have outcome := step_outcome compiler origin lines state token
  rw [stepped] at outcome
  cases outcome with
  | comment => cases opens
  | literal =>
    split at opens
    · cases opens
    · simp at opens
  | settled _ settled => cases settled_cases settled <;> simp at opens
  | custom =>
    rcases role_of_mem_customTags opens with copied | role
    · cases copied
    · cases role
  | @tag found _ kind left classified outcome =>
    cases outcome with
    | opensLoop isLoop =>
      obtain rfl := Instruction.loopOpen.inj (List.mem_singleton.1 opens)
      exact ⟨rfl, (isActive_iff kind).2 left, found, classified, isLoop, namedBy_loopHeader _ _⟩
    | opensRegion _ written =>
      rcases written with ⟨-, -, rfl⟩ | ⟨-, plain⟩
      · simp at opens
      · cases plain _ opens
    | opensIf => simp at opens
    | @closes block => cases block <;> simp [closing] at opens
    | escapes => cases opens
    | writes _ _ _ role =>
      obtain rfl := List.mem_singleton.1 opens
      cases role

/-- Loops of different levels have different default names. -/
theorem nodup_defaultNames {loops : List Loop} (distinct : (loops.map Loop.level).Nodup) :
    (loops.flatMap Loop.defaultNames).Nodup := by
  rw [List.nodup_flatMap]
  constructor
  · intro header _
    unfold Loop.defaultNames Loop.defaultKey Loop.defaultValue Loop.counter
    generalize decimal header.level = digits
    simp
  · refine (List.pairwise_map.1 distinct).imp ?_
    intro left right different name leftName rightName
    have apart := decimal_injective.ne different
    unfold Loop.defaultNames Loop.defaultKey Loop.defaultValue Loop.counter at leftName rightName
    generalize decimal left.level = leftDigits at *
    generalize decimal right.level = rightDigits at *
    simp only [List.mem_cons, List.not_mem_nil, or_false] at leftName rightName
    rcases leftName with rfl | rfl | rfl <;> simp [apart] at rightName

/-! ## Runs -/

theorem State.depth_of_rawCode (state : State) (inside : state.region = .rawCode) :
    state.depth = ⟨state.loops.length, state.conditionals.length, true⟩ := by
  simp [State.depth, inside]

theorem State.depth_of_ne_rawCode (state : State) (outside : state.region ≠ .rawCode) :
    state.depth = ⟨state.loops.length, state.conditionals.length, false⟩ := by
  simp [State.depth, outside]

theorem settled_walk {options : CompileOptions} {state : State} {region : Region}
    {text : List Char} {instructions : List Instruction}
    (permitted : Permitted options state.region)
    (settled : settleRegion? options state.region text = some (region, instructions)) :
    Walk options.allowRawCode state.depth instructions { state with region }.depth := by
  -- Only raw code is seen in the depth; no other region turns into it.
  have next := region_of_settled permitted settled
  have written := settled_cases settled
  by_cases inside : state.region = .rawCode
  · rw [State.depth_of_rawCode state inside]
    cases written with
    | nothing goesOn =>
      rw [goesOn inside (permitted inside), inside] at next
      rw [next, State.depth_of_rawCode _ rfl]
      exact .nil
    | notice refused =>
      rw [permitted inside] at refused
      cases refused inside
    | copy goesOn =>
      rw [goesOn, inside] at next
      rw [next, State.depth_of_rawCode _ rfl]
      exact .single .text
    | closeRawCode _ ends =>
      rw [ends] at next
      rw [next, State.depth_of_ne_rawCode _ (by simp)]
      exact .single .rawCodeClose
  · have outside : region ≠ .rawCode := by
      rw [next]
      split
      · simp
      · exact inside
    rw [State.depth_of_ne_rawCode state inside,
      State.depth_of_ne_rawCode { state with region } outside]
    cases written with
    | nothing => exact .nil
    | notice => exact .single (.plain rfl)
    | copy => exact .single .text
    | closeRawCode raw => exact absurd raw inside

theorem tag_walk {options : CompileOptions} {origin : Origin} {state : State} {span : Source.Span}
    {found : TagMatch} {effect : Effect} (markup : state.region = .markup)
    (outcome : TagOutcome options origin state span found (.ok effect)) :
    Walk options.allowRawCode state.depth effect.instructions effect.state.depth := by
  have outside : state.region ≠ .rawCode := by simp [markup]
  rw [State.depth_of_ne_rawCode state outside]
  cases outcome with
  | @opensRegion region instructions _ written =>
    rcases written with ⟨rfl, allowed, rfl⟩ | ⟨apart, plain⟩
    · exact .single (.rawCodeOpen allowed)
    · rw [State.depth_of_ne_rawCode { state with region } apart]
      exact .passive fun instruction listed => .inr ⟨rfl, plain instruction listed⟩
  | opensLoop =>
    rw [State.depth_of_ne_rawCode _ (by simpa using outside)]
    exact .single (.loopOpen rfl)
  | opensIf =>
    rw [State.depth_of_ne_rawCode _ (by simpa using outside)]
    exact .single .ifOpen
  | @closes block opener outer _ isOpen =>
    rw [State.depth_of_ne_rawCode _ (by simpa using outside)]
    cases block with
    | loop =>
      have counted : state.loops.length = outer.length + 1 := congrArg List.length isOpen
      rw [counted]
      exact .single .loopClose
    | conditional =>
      have counted : state.conditionals.length = outer.length + 1 := congrArg List.length isOpen
      rw [counted]
      exact .single .ifClose
  | @escapes escapes =>
    rw [State.depth_of_ne_rawCode { state with escapes } outside]
    exact .nil
  | writes _ _ _ role =>
    rw [State.depth_of_ne_rawCode state outside]
    exact .single (.plain role)

theorem step_walk {compiler : Compiler} {origin : Origin} {lines : LineIndex} {state : State}
    {token : Token} {effect : Effect}
    (permitted : Permitted compiler.options state.region)
    (stepped : compiler.step origin lines state token = .ok effect) :
    Walk compiler.options.allowRawCode state.depth effect.instructions effect.state.depth := by
  have outcome := step_outcome compiler origin lines state token
  rw [stepped] at outcome
  cases outcome with
  | comment => exact .nil
  | literal =>
    refine .passive fun instruction written => ?_
    split at written
    · cases written
    · exact .inl ⟨_, List.mem_singleton.1 written⟩
  | settled _ settled => exact settled_walk permitted settled
  | tag _ left _ outcome => exact tag_walk (settleRegion?_eq_none_iff.1 left).1 outcome
  | custom _ left =>
    have outside : state.region ≠ .rawCode := by simp [(settleRegion?_eq_none_iff.1 left).1]
    rw [State.depth_of_ne_rawCode state outside]
    refine .passive fun instruction written => ?_
    exact (role_of_mem_customTags written).imp (fun copied => ⟨_, copied⟩) fun role => ⟨rfl, role⟩

/-- A run moves between depths as the instructions that it writes do. -/
theorem run_walk {compiler : Compiler} {origin : Origin} {lines : LineIndex} {state final : State}
    {tokens : List Token} {instructions : List Instruction}
    (permitted : Permitted compiler.options state.region)
    (ran : (compiler.run origin lines state tokens).result = .ok (final, instructions)) :
    Walk compiler.options.allowRawCode state.depth instructions final.depth := by
  induction tokens generalizing state instructions with
  | nil =>
    obtain ⟨rfl, rfl⟩ := run_nil_ok_iff.1 ran
    exact .nil
  | cons token tokens ih =>
    obtain ⟨effect, later, stepped, rest, rfl⟩ := run_cons_ok_iff.1 ran
    exact (step_walk permitted stepped).append (ih (permitted_step permitted stepped) rest)

/-! ## Programs -/

/-- A walk that begins and ends outside all blocks has a block structure. -/
theorem Walk.blockStructure {allowed : Bool} {instructions : List Instruction} {finish : Depth}
    (walk : Walk allowed ⟨0, 0, false⟩ instructions finish)
    (ends : ∀ block, finish.count block = 0) : BlockStructure instructions := by
  have outside : ∀ block, (⟨0, 0, false⟩ : Depth).count block = 0 := by
    intro block
    cases block <;> rfl
  constructor
  case nested =>
    rintro block before ⟨after, rfl⟩
    obtain ⟨middle, first, -⟩ := walk.split
    have counted := first.count block
    have start := outside block
    omega
  case balanced =>
    intro block
    have counted := walk.count block
    have start := outside block
    have finished := ends block
    omega
  case level =>
    -- The step at the loop fixes the level by the depth, the walk up to it the depth.
    rintro before header after rfl
    obtain ⟨middle, first, later⟩ := walk.split
    have counted := first.count .loop
    have start := outside .loop
    cases later with
    | cons step _ =>
      cases step with
      | loopOpen level =>
        simp only [Depth.count] at counted start
        omega
      | plain role => cases role
  case names =>
    -- The levels of the open loops are those from one to the depth.
    rintro before ⟨after, rfl⟩
    obtain ⟨middle, first, -⟩ := walk.split
    have levels : (openLoops before).map Loop.level = (List.range' 1 middle.loops).reverse :=
      first.levels rfl
    refine nodup_defaultNames ?_
    rw [levels, List.nodup_reverse]
    exact List.nodup_range'
  case rawCode => exact walk.rawCodeBlocks.1 rfl

/-- The blocks of a compiled program are closed in the order of each kind, loops know their
    depth and are named by the tags they were written for, and raw code is there only where
    it is allowed. -/
theorem compile_blockStructure (compiler : Compiler) (source : List Char) (origin : Origin)
    (program : Program) (compiled : (compiler.compile source origin).result = .ok program) :
    BlockStructure program.instructions ∧
      (∀ front header back, program.instructions = front ++ .loopOpen header :: back →
        ∃ before opener after state found, compiler.tokens source = before ++ opener :: after ∧
          compiler.reaches source origin before = .ok (state, front) ∧
          IsActive compiler.options state.region opener ∧
          classify? compiler.options.caseInsensitiveTags opener.text = some found ∧
          found.kind = .loopOpen ∧ header.NamedBy found) ∧
      (compiler.options.allowRawCode = false →
        ∀ instruction ∈ program.instructions, instruction.role ≠ .rawCode) := by
  obtain ⟨final, ran, closed⟩ := compile_ok_iff.1 compiled
  have walk : Walk compiler.options.allowRawCode ⟨0, 0, false⟩ program.instructions final.depth :=
    @run_walk _ _ _ {} _ _ _ (permitted_markup _) ran
  refine ⟨walk.blockStructure fun block => ?_, fun front header back split => ?_, fun forbidden => ?_⟩
  · have none := closed block
    cases block <;> simpa [Depth.count, State.depth, State.spans] using none
  · -- The tag writes nothing but the opening.
    obtain ⟨before, opener, after, state, effect, whole, reached, stepped, opens⟩ :=
      exists_sole_step_of_split ran split fun stepped opens => (namedBy_of_step stepped opens).1
    obtain ⟨-, active, found, classified, kind, named⟩ := namedBy_of_step stepped opens
    exact ⟨before, opener, after, state, found, whole, reached, active, classified, kind, named⟩
  · rw [forbidden] at walk
    exact walk.no_rawCode rfl

/-- Raw code in a loop that names its value, and a loop around it that names nothing. -/
theorem compile_blockStructure_rawCode :
    let compiler : Compiler := ⟨{ allowRawCode := true }, .empty⟩
    let source :=
      "\x7bloop=\"$x\"\x7d\x7bloop=\"$y\" as $z\x7d\x7bphp\x7d$x\x7b/php\x7d\x7b/loop\x7d\x7b/loop\x7d".toList
    let outer : Loop := ⟨1, .direct "$x".toList, "$key1".toList, "$value1".toList⟩
    let inner : Loop := ⟨2, .direct "$y".toList, "$key2".toList, "$z".toList⟩
    let instructions : List Instruction :=
      [.loopOpen outer, .loopOpen inner, .rawCodeOpen, .text "$x".toList, .rawCodeClose, .loopClose,
        .loopClose]
    (compiler.compile source (.file [] [])).result = .ok ⟨instructions⟩ ∧
      BlockStructure instructions ∧
      ∃ before opener after state found, compiler.tokens source = before ++ opener :: after ∧
        compiler.reaches source (.file [] []) before = .ok (state, [.loopOpen outer]) ∧
        IsActive compiler.options state.region opener ∧
        classify? false opener.text = some found ∧ found.kind = .loopOpen ∧ inner.NamedBy found := by
  intro compiler source outer inner instructions
  have compiled : (compiler.compile source (.file [] [])).result = .ok ⟨instructions⟩ := by
    decide +kernel
  obtain ⟨structured, named, -⟩ := compile_blockStructure _ _ _ _ compiled
  exact ⟨compiled, structured, named [.loopOpen outer] inner _ rfl⟩

end Stencil.Program
