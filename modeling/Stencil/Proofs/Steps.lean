import Stencil.Program.Compile

/-! # What a token does

A token does one of a few things to the compiler: it settles a region, opens or
closes a block, begins a region, changes the escaping, or writes something that
has no influence on the rest.  Everything that holds along a compilation is
proved from these outcomes, not from the compiler's code.

* `settleRegion?_eq_none_iff` — the candidates that are looked at;
* `Settled` / `settled_cases` — what a region writes of the others;
* `TagOutcome` / `ordinaryTag_outcome` — the outcomes of a tag;
* `StepOutcome` / `step_outcome` — the outcomes of a token;
* `run_cons_ok_iff`, `compile_ok_iff` — runs and compilations that succeed.
-/

namespace Stencil.Tag

open Stencil.Template (Block)

/-! ## Kinds of tags -/

/-- The block that a tag of the kind opens. -/
def TagKind.opensBlock? : TagKind → Option Block
  | .loopOpen => some .loop
  | .ifOpen => some .conditional
  | _ => none

/-- The block that a tag of the kind closes. -/
def TagKind.closesBlock? : TagKind → Option Block
  | .loopClose => some .loop
  | .ifClose => some .conditional
  | _ => none

theorem TagKind.kind_find? {ignoreCase : Bool} {kind : TagKind} {text : List Char}
    {found : TagMatch} (matched : kind.find? ignoreCase text = some found) : found.kind = kind := by
  simp only [TagKind.find?, Option.map_eq_some_iff] at matched
  obtain ⟨_, -, rfl⟩ := matched
  rfl

/-- Classification never yields the end of a region. -/
theorem kind_classify? {ignoreCase : Bool} {text : List Char} {found : TagMatch}
    (classified : classify? ignoreCase text = some found) : found.kind ∈ TagKind.ordinary := by
  obtain ⟨kind, listed, matched⟩ := List.exists_of_findSome?_eq_some classified
  rwa [TagKind.kind_find? matched]

end Stencil.Tag

namespace Stencil.Program

open Stencil.Expr (resolve)
open Stencil.Source (Span LineIndex)
open Stencil.Tag
open Stencil.Template

/-! ## Blocks of a state -/

/-- The spans of the open blocks of a kind, innermost first. -/
def State.spans (state : State) : Block → List Span
  | .loop => state.loops
  | .conditional => state.conditionals

/-- No block is open at the beginning, whatever the region. -/
theorem State.spans_initial (region : Region) (block : Block) :
    State.spans { region := region } block = [] := by
  cases block <;> rfl

/-- The state with other blocks of one kind. -/
def State.withSpans (state : State) (spans : List Span) : Block → State
  | .loop => { state with loops := spans }
  | .conditional => { state with conditionals := spans }

@[simp] theorem State.spans_withSpans_self (state : State) (spans : List Span) (block : Block) :
    (state.withSpans spans block).spans block = spans := by
  cases block <;> rfl

@[simp] theorem State.spans_withSpans_of_ne (state : State) (spans : List Span)
    {block other : Block} (different : other ≠ block) :
    (state.withSpans spans block).spans other = state.spans other := by
  cases block <;> cases other <;> first | rfl | exact absurd rfl different

@[simp] theorem State.region_withSpans (state : State) (spans : List Span) (block : Block) :
    (state.withSpans spans block).region = state.region := by
  cases block <;> rfl

/-- The instruction that closes a block. -/
def closing : Block → Instruction
  | .loop => .loopClose
  | .conditional => .ifClose

/-! ## Roles of instructions -/

/-- What an instruction is to the structure of a program. -/
inductive Role where
  | text
  /-- The start or the end of a loop or conditional. -/
  | block
  /-- The start or the end of raw code. -/
  | rawCode
  | plain
  deriving DecidableEq, Repr

/-- The role of an instruction. -/
def Instruction.role : Instruction → Role
  | .text _ => .text
  | .loopOpen _ | .loopClose | .ifOpen _ | .ifClose => .block
  | .rawCodeOpen | .rawCodeClose => .rawCode
  | _ => .plain

/-! ## Regions -/

/-- The region that a tag of a kind begins. -/
def opensRegion? (options : CompileOptions) : TagKind → Option Region
  | .ignoreOpen => some .ignored
  | .noParseOpen => some .noParse
  | .rawCodeOpen => some (if options.allowRawCode then .rawCode else .ignored)
  | _ => none

theorem opensRegion?_of_closesBlock? {options : CompileOptions} {kind : TagKind} {block : Block}
    (closes : kind.closesBlock? = some block) : opensRegion? options kind = none := by
  cases kind <;> first | rfl | cases closes

theorem no_block_of_opensRegion? {options : CompileOptions} {kind : TagKind} {region : Region}
    (begins : opensRegion? options kind = some region) :
    kind.opensBlock? = none ∧ kind.closesBlock? = none := by
  cases kind <;> first | exact ⟨rfl, rfl⟩ | cases begins

/-- Whether a candidate ends a region.  The end of raw code does so only where
    raw code is dropped. -/
def ClosesRegion (options : CompileOptions) (text : List Char) : Prop :=
  TagKind.ignoreClose.occursIn options.caseInsensitiveTags text ∨
  TagKind.noParseClose.occursIn options.caseInsensitiveTags text ∨
  (options.allowRawCode = false ∧ TagKind.rawCodeClose.occursIn options.caseInsensitiveTags text)

/-- The candidates that are looked at stand outside regions and end none. -/
theorem settleRegion?_eq_none_iff {options : CompileOptions} {region : Region} {text : List Char} :
    settleRegion? options region text = none ↔
      region = .markup ∧ ¬ ClosesRegion options text := by
  unfold settleRegion? ClosesRegion
  cases region <;> cases options.allowRawCode <;> simp <;> grind

/-- Whether a candidate ends a region.  Dropped text also ends where raw code
    would if that is not allowed. -/
def endsRegion (options : CompileOptions) (region : Region) (text : List Char) : Bool :=
  let closes (kind : TagKind) : Bool := kind.occursIn options.caseInsensitiveTags text
  match region with
  | .markup => false
  | .noParse => closes .noParseClose
  | .ignored => closes .ignoreClose || (!options.allowRawCode && closes .rawCodeClose)
  | .rawCode => closes .rawCodeClose

/-- The regions that the compiler gets into: raw code only where that is allowed. -/
def Permitted (options : CompileOptions) (region : Region) : Prop :=
  region = .rawCode → options.allowRawCode = true

theorem permitted_markup (options : CompileOptions) : Permitted options .markup :=
  fun inside => by cases inside

/-- A region goes on until a candidate ends it. -/
theorem region_of_settled {options : CompileOptions} {region next : Region} {text : List Char}
    {instructions : List Instruction}
    (permitted : Permitted options region)
    (settled : settleRegion? options region text = some (next, instructions)) :
    next = if endsRegion options region text then .markup else region := by
  unfold settleRegion? at settled
  unfold endsRegion
  cases region <;> cases allowed : options.allowRawCode <;> simp_all [Permitted, Region.leave] <;>
    grind

/-- What a region writes of a candidate.  Raw code that is allowed writes its end
    exactly where it ends. -/
inductive Settled (options : CompileOptions) (region : Region) (text : List Char) :
    List Instruction → Prop where
  | nothing (goesOn : region = .rawCode → options.allowRawCode = true →
      endsRegion options region text = false) : Settled options region text []
  | notice (refused : region = .rawCode → options.allowRawCode = false) :
      Settled options region text [.notice rawCodeCloseNotice]
  | copy (goesOn : endsRegion options region text = false) :
      Settled options region text [.text text]
  | closeRawCode (inside : region = .rawCode) (ends : endsRegion options region text = true) :
      Settled options region text [.rawCodeClose]

theorem settled_cases {options : CompileOptions} {region next : Region} {text : List Char}
    {instructions : List Instruction}
    (settled : settleRegion? options region text = some (next, instructions)) :
    Settled options region text instructions := by
  unfold settleRegion? at settled
  simp only at settled
  split at settled
  · rename_i refused
    cases settled
    exact .notice fun _ => by simp_all
  split at settled
  · rename_i closes
    cases settled
    simp only [Bool.and_eq_true, decide_eq_true_eq] at closes
    exact .closeRawCode closes.1 (by simp [endsRegion, closes])
  -- From here on raw code that is allowed goes on.
  rename_i notRefused notClosed
  have goesOn : region = .rawCode → endsRegion options region text = false := by
    rintro rfl
    simpa [endsRegion] using notClosed
  split at settled
  · cases settled
    exact .nothing fun inside _ => goesOn inside
  split at settled
  · cases settled
    exact .nothing fun inside _ => goesOn inside
  split at settled
  · cases settled
    exact .nothing fun inside _ => goesOn inside
  split at settled
  · cases settled
  · cases settled
    refine .copy ?_
    cases region <;> simp_all [endsRegion]

/-! ## Tags -/

/-- What an ordinary tag leads to. -/
inductive TagOutcome (options : CompileOptions) (origin : Origin) (state : State) (span : Span)
    (found : TagMatch) : Except TemplateError Effect → Prop where
  /-- A region begins.  Raw code that is dropped leaves a remark. -/
  | opensRegion {region : Region} {instructions : List Instruction}
      (opens : opensRegion? options found.kind = some region)
      (written : region = .rawCode ∧ options.allowRawCode = true ∧ instructions = [.rawCodeOpen] ∨
        region ≠ .rawCode ∧ ∀ instruction ∈ instructions, instruction.role = .plain) :
      TagOutcome options origin state span found
        (.ok { state := { state with region }, instructions })
  | opensLoop (kind : found.kind = .loopOpen) :
      TagOutcome options origin state span found
        (.ok { state := state.withSpans (span :: state.spans .loop) .loop
               instructions := [.loopOpen (loopHeader found (state.loops.length + 1))] })
  | opensIf (kind : found.kind = .ifOpen) (condition : Expr) :
      TagOutcome options origin state span found
        (.ok { state := state.withSpans (span :: state.spans .conditional) .conditional
               instructions := [.ifOpen condition] })
  | closes {block : Block} {opener : Span} {outer : List Span}
      (kind : found.kind.closesBlock? = some block)
      (isOpen : state.spans block = opener :: outer) :
      TagOutcome options origin state span found
        (.ok { state := state.withSpans outer block, instructions := [closing block] })
  /-- Nothing is open that could be closed. -/
  | stray {block : Block} (kind : found.kind.closesBlock? = some block)
      (noneOpen : state.spans block = []) :
      TagOutcome options origin state span found (.error (.unexpectedClose block origin span))
  | escapes {escapes : List Bool} {events : List Event}
      (kind : found.kind = .autoescapeOpen ∨ found.kind = .autoescapeClose) :
      TagOutcome options origin state span found
        (.ok { state := { state with escapes }, events })
  /-- Something is written that no other tag depends on. -/
  | writes {instruction : Instruction} {events : List Event}
      (region : opensRegion? options found.kind = none)
      (opens : found.kind.opensBlock? = none) (closes : found.kind.closesBlock? = none)
      (role : instruction.role = .plain) :
      TagOutcome options origin state span found
        (.ok { state, instructions := [instruction], events })

theorem ordinaryTag_outcome {compiler : Compiler} {origin : Origin} {lines : LineIndex}
    {state : State} {span : Span} {found : TagMatch} (ordinary : found.kind ∈ TagKind.ordinary) :
    TagOutcome compiler.options origin state span found
      (compiler.ordinaryTag origin lines state span found) := by
  unfold Compiler.ordinaryTag
  cases kind : found.kind with
  | rawCodeClose | ignoreClose | noParseClose =>
    rw [kind] at ordinary
    exact absurd ordinary (by decide)
  | ignoreOpen | noParseOpen => exact .opensRegion (by simp [opensRegion?, kind]) (.inr (by simp))
  | rawCodeOpen =>
    cases allowed : compiler.options.allowRawCode with
    | true => exact .opensRegion (by simp [opensRegion?, kind, allowed]) (.inl (by simp [allowed]))
    | false =>
      exact .opensRegion (by simp [opensRegion?, kind, allowed])
        (.inr (by simp [Instruction.role]))
  | loopOpen => exact .opensLoop kind
  | ifOpen => exact .opensIf kind _
  | loopClose =>
    have closes : found.kind.closesBlock? = some .loop := by simp [kind, TagKind.closesBlock?]
    cases spans : state.loops with
    | nil => exact .stray closes spans
    | cons opener outer => exact .closes closes spans
  | ifClose =>
    have closes : found.kind.closesBlock? = some .conditional := by
      simp [kind, TagKind.closesBlock?]
    cases spans : state.conditionals with
    | nil => exact .stray closes spans
    | cons opener outer => exact .closes closes spans
  | autoescapeOpen => exact .escapes (.inl kind)
  | autoescapeClose =>
    cases spans : state.escapes with
    | nil => exact .escapes (.inr kind)
    | cons mode outer => exact .escapes (.inr kind)
  | functionCall =>
    cases arguments : found.argument? 2 with
    | none =>
      exact .writes (by simp [kind, opensRegion?]) (by simp [kind, TagKind.opensBlock?])
        (by simp [kind, TagKind.closesBlock?]) rfl
    | some text =>
      exact .writes (by simp [kind, opensRegion?]) (by simp [kind, TagKind.opensBlock?])
        (by simp [kind, TagKind.closesBlock?]) rfl
  | variableTag =>
    refine .writes (by simp [kind, opensRegion?]) (by simp [kind, TagKind.opensBlock?])
      (by simp [kind, TagKind.closesBlock?]) ?_
    split <;> rfl
  | inclusion | loopBreak | loopContinue | elseIf | otherwise | ternary | constantTag =>
    exact .writes (by simp [kind, opensRegion?]) (by simp [kind, TagKind.opensBlock?])
      (by simp [kind, TagKind.closesBlock?]) rfl

/-! ## Tokens -/

/-- What a token leads to. -/
inductive StepOutcome (compiler : Compiler) (origin : Origin) (state : State) (token : Token) :
    Except TemplateError Effect → Prop where
  | comment (kind : token.kind = .comment) : StepOutcome compiler origin state token (.ok { state })
  | literal (kind : token.kind = .literal) :
      StepOutcome compiler origin state token
        (.ok { state, instructions := if state.region = .ignored then [] else [.text token.text] })
  /-- The region decides what becomes of a candidate. -/
  | settled {region : Region} {instructions : List Instruction} (kind : token.kind = .candidate)
      (settled : settleRegion? compiler.options state.region token.text =
        some (region, instructions)) :
      StepOutcome compiler origin state token
        (.ok { state := { state with region }, instructions })
  | tag {found : TagMatch} {result : Except TemplateError Effect} (kind : token.kind = .candidate)
      (left : settleRegion? compiler.options state.region token.text = none)
      (classified : classify? compiler.options.caseInsensitiveTags token.text = some found)
      (outcome : TagOutcome compiler.options origin state token.span found result) :
      StepOutcome compiler origin state token result
  | custom (kind : token.kind = .candidate)
      (left : settleRegion? compiler.options state.region token.text = none)
      (unclassified : classify? compiler.options.caseInsensitiveTags token.text = none) :
      StepOutcome compiler origin state token
        (.ok { state, instructions := compiler.customTags token.text })

theorem step_outcome (compiler : Compiler) (origin : Origin) (lines : LineIndex) (state : State)
    (token : Token) :
    StepOutcome compiler origin state token (compiler.step origin lines state token) := by
  unfold Compiler.step
  cases kind : token.kind with
  | comment => exact .comment kind
  | literal => exact .literal kind
  | candidate =>
    simp only [Compiler.candidate]
    cases settled : settleRegion? compiler.options state.region token.text with
    | some next => exact .settled kind settled
    | none =>
      cases classified : classify? compiler.options.caseInsensitiveTags token.text with
      | some found =>
        exact .tag kind settled classified (ordinaryTag_outcome (kind_classify? classified))
      | none => exact .custom kind settled classified

theorem role_of_mem_customTags {compiler : Compiler} {text : List Char} {instruction : Instruction}
    (written : instruction ∈ compiler.customTags text) :
    instruction = .text text ∨ instruction.role = .plain := by
  unfold Compiler.customTags at written
  split at written
  · exact .inl (List.mem_singleton.1 written)
  · obtain ⟨_, _, rfl⟩ := List.mem_map.1 written
    exact .inr rfl

theorem TagOutcome.no_text {options : CompileOptions} {origin : Origin} {state : State}
    {span : Span} {found : TagMatch} {effect : Effect} {content : List Char}
    (outcome : TagOutcome options origin state span found (.ok effect)) :
    .text content ∉ effect.instructions := by
  cases outcome with
  | opensRegion _ written =>
    rcases written with ⟨-, -, rfl⟩ | ⟨-, plain⟩
    · simp
    · exact fun listed => absurd (plain _ listed) (by simp [Instruction.role])
  | @closes block => cases block <;> simp [closing]
  | writes _ _ _ role =>
    intro listed
    rw [← List.mem_singleton.1 listed] at role
    cases role
  | _ => simp

theorem text_of_mem_step {compiler : Compiler} {origin : Origin} {lines : LineIndex}
    {state : State} {token : Token} {effect : Effect} {content : List Char}
    (stepped : compiler.step origin lines state token = .ok effect)
    (written : .text content ∈ effect.instructions) : content = token.text := by
  have outcome := step_outcome compiler origin lines state token
  rw [stepped] at outcome
  cases outcome with
  | comment => cases written
  | literal =>
    split at written
    · cases written
    · simpa using written
  | settled _ settled =>
    cases settled_cases settled with
    | copy => simpa using written
    | _ => simp at written
  | tag _ _ _ outcome => exact absurd written outcome.no_text
  | custom =>
    rcases role_of_mem_customTags written with same | role
    · simpa using same
    · cases role

/-- Where a token leads to texts only, it is to its own text at most. -/
theorem texts_of_step {compiler : Compiler} {origin : Origin} {lines : LineIndex}
    {state : State} {token : Token} {effect : Effect} {texts : List (List Char)}
    (stepped : compiler.step origin lines state token = .ok effect)
    (written : texts.map .text = effect.instructions) : texts = [] ∨ texts = [token.text] := by
  cases texts with
  | nil => exact .inl rfl
  | cons text texts =>
    have listed : .text text ∈ effect.instructions := written ▸ .head _
    have same := text_of_mem_step stepped listed
    -- Only custom tags write several instructions, and then no text.
    have outcome := step_outcome compiler origin lines state token
    rw [stepped] at outcome
    have single : effect.instructions.length ≤ 1 := by
      cases outcome with
      | comment => simp
      | literal => split <;> simp
      | settled _ settled => cases settled_cases settled <;> simp
      | tag _ _ _ outcome => exact absurd listed outcome.no_text
      | custom =>
        unfold Compiler.customTags at listed ⊢
        split at listed
        · simp
        · obtain ⟨_, _, other⟩ := List.mem_map.1 listed
          cases other
    rw [← written, List.length_map, List.length_cons] at single
    rw [List.length_eq_zero_iff.1 (Nat.le_zero.1 (Nat.le_of_succ_le_succ single)), same]
    exact .inr rfl

/-! ## Runs -/

theorem run_nil_ok_iff {compiler : Compiler} {origin : Origin} {lines : LineIndex}
    {state final : State} {instructions : List Instruction} :
    (compiler.run origin lines state []).result = .ok (final, instructions) ↔
      final = state ∧ instructions = [] := by
  simp [Compiler.run, eq_comm]

theorem result_run_cons (compiler : Compiler) (origin : Origin) (lines : LineIndex) (state : State)
    (token : Token) (tokens : List Token) :
    (compiler.run origin lines state (token :: tokens)).result =
      match compiler.step origin lines state token with
      | .error error => .error error
      | .ok effect =>
        (compiler.run origin lines effect.state tokens).result.map fun (final, instructions) =>
          (final, effect.instructions ++ instructions) := by
  rw [Compiler.run]
  cases compiler.step origin lines state token <;> rfl

theorem run_cons_ok_iff {compiler : Compiler} {origin : Origin} {lines : LineIndex}
    {state final : State} {token : Token} {tokens : List Token}
    {instructions : List Instruction} :
    (compiler.run origin lines state (token :: tokens)).result = .ok (final, instructions) ↔
      ∃ effect later, compiler.step origin lines state token = .ok effect ∧
        (compiler.run origin lines effect.state tokens).result = .ok (final, later) ∧
        instructions = effect.instructions ++ later := by
  rw [result_run_cons]
  -- A failed step leaves no program, whatever comes after it.
  cases stepped : compiler.step origin lines state token with
  | error error => simp
  | ok effect =>
    simp only [Except.ok.injEq, exists_eq_left', exists_and_left]
    cases (compiler.run origin lines effect.state tokens).result with
    | error error => simp [Except.map]
    | ok outcome => simp [Except.map, Prod.ext_iff, eq_comm, and_assoc]

/-- Tokens that leave the state as it is are written one after the other. -/
theorem run_of_steady {compiler : Compiler} {origin : Origin} {lines : LineIndex} {state : State}
    {tokens : List Token} {writes : Token → List Instruction}
    (steady : ∀ token ∈ tokens,
      compiler.step origin lines state token = .ok { state, instructions := writes token }) :
    compiler.run origin lines state tokens = ⟨[], .ok (state, tokens.flatMap writes)⟩ := by
  induction tokens with
  | nil => rfl
  | cons token tokens ih =>
    obtain ⟨stepped, steady⟩ := List.forall_mem_cons.1 steady
    rw [Compiler.run, stepped]
    simp only [ih steady]
    rfl

theorem run_append_ok_iff {compiler : Compiler} {origin : Origin} {lines : LineIndex}
    {state final : State} {left right : List Token} {instructions : List Instruction} :
    (compiler.run origin lines state (left ++ right)).result = .ok (final, instructions) ↔
      ∃ middle written later, (compiler.run origin lines state left).result = .ok (middle, written) ∧
        (compiler.run origin lines middle right).result = .ok (final, later) ∧
        instructions = written ++ later := by
  induction left generalizing state instructions with
  | nil =>
    simp only [List.nil_append, run_nil_ok_iff]
    constructor
    · intro ran
      exact ⟨state, [], instructions, ⟨rfl, rfl⟩, ran, rfl⟩
    · rintro ⟨middle, written, later, ⟨rfl, rfl⟩, ran, rfl⟩
      exact ran
  | cons token left ih =>
    simp only [List.cons_append, run_cons_ok_iff, ih]
    constructor
    · rintro ⟨effect, _, stepped, ⟨middle, written, later, first, second, rfl⟩, rfl⟩
      exact ⟨middle, effect.instructions ++ written, later, ⟨effect, written, stepped, first, rfl⟩,
        second, by simp⟩
    · rintro ⟨middle, _, later, ⟨effect, written, stepped, first, rfl⟩, second, rfl⟩
      exact ⟨effect, written ++ later, stepped, ⟨middle, written, later, first, second, rfl⟩,
        by simp⟩

/-- Every instruction of a run is written for one of its tokens, behind what is written for
    the tokens in front. -/
theorem exists_step_of_split {compiler : Compiler} {origin : Origin} {lines : LineIndex}
    {state final : State} {tokens : List Token} {instructions front back : List Instruction}
    {written : Instruction}
    (ran : (compiler.run origin lines state tokens).result = .ok (final, instructions))
    (split : instructions = front ++ written :: back) :
    ∃ before token after middle earlier effect first rest, tokens = before ++ token :: after ∧
      (compiler.run origin lines state before).result = .ok (middle, earlier) ∧
      compiler.step origin lines middle token = .ok effect ∧
      effect.instructions = first ++ written :: rest ∧ front = earlier ++ first := by
  induction tokens generalizing state instructions front with
  | nil =>
    obtain ⟨-, rfl⟩ := run_nil_ok_iff.1 ran
    simp at split
  | cons token tokens ih =>
    obtain ⟨effect, later, stepped, others, rfl⟩ := run_cons_ok_iff.1 ran
    have further {more : List Instruction} (here : front = effect.instructions ++ more)
        (behind : later = more ++ written :: back) :
        ∃ before writer after middle earlier effect first rest,
          token :: tokens = before ++ writer :: after ∧
          (compiler.run origin lines state before).result = .ok (middle, earlier) ∧
          compiler.step origin lines middle writer = .ok effect ∧
          effect.instructions = first ++ written :: rest ∧ front = earlier ++ first := by
      obtain ⟨before, writer, after, middle, earlier, next, first, rest, rfl, reached, wrote, whole,
        rfl⟩ := ih others behind
      exact ⟨token :: before, writer, after, middle, effect.instructions ++ earlier, next, first, rest,
        rfl, run_cons_ok_iff.2 ⟨effect, earlier, stepped, reached, rfl⟩, wrote, whole, by simp [here]⟩
    rcases List.append_eq_append_iff.1 split with ⟨more, here, behind⟩ | ⟨more, here, behind⟩
    · exact further here behind
    · cases more with
      | nil => exact @further [] (by simp [here]) behind.symm
      | cons instruction more =>
        obtain ⟨rfl, rfl⟩ := List.cons.inj behind
        exact ⟨[], token, tokens, state, [], effect, front, more, rfl, run_nil_ok_iff.2 ⟨rfl, rfl⟩,
          stepped, here, rfl⟩

/-- An instruction that tokens write alone has a token of its own, and what stands in front of
    the instruction is written for the tokens in front of that. -/
theorem exists_sole_step_of_split {compiler : Compiler} {origin : Origin} {lines : LineIndex}
    {state final : State} {tokens : List Token} {instructions front back : List Instruction}
    {written : Instruction}
    (ran : (compiler.run origin lines state tokens).result = .ok (final, instructions))
    (split : instructions = front ++ written :: back)
    (alone : ∀ {state : State} {token : Token} {effect : Effect},
      compiler.step origin lines state token = .ok effect → written ∈ effect.instructions →
        effect.instructions = [written]) :
    ∃ before token after middle effect, tokens = before ++ token :: after ∧
      (compiler.run origin lines state before).result = .ok (middle, front) ∧
      compiler.step origin lines middle token = .ok effect ∧ written ∈ effect.instructions := by
  obtain ⟨before, token, after, middle, earlier, effect, first, rest, whole, reached, stepped, here,
    rfl⟩ := exists_step_of_split ran split
  have listed : written ∈ effect.instructions := by simp [here]
  -- Nothing of the same token stands in front.
  obtain ⟨rfl, -⟩ : first = [] ∧ rest = [] := by
    simpa [List.append_eq_cons_iff] using here.symm.trans (alone stepped listed)
  rw [List.append_nil]
  exact ⟨before, token, after, middle, effect, whole, reached, stepped, listed⟩

theorem exists_step_of_run {compiler : Compiler} {origin : Origin} {lines : LineIndex}
    {state final : State} {tokens : List Token} {instructions : List Instruction}
    {written : Instruction}
    (ran : (compiler.run origin lines state tokens).result = .ok (final, instructions))
    (listed : written ∈ instructions) :
    ∃ state token effect, compiler.step origin lines state token = .ok effect ∧
      written ∈ effect.instructions := by
  obtain ⟨front, back, split⟩ := List.append_of_mem listed
  obtain ⟨-, token, -, middle, -, effect, first, rest, -, -, stepped, here, -⟩ :=
    exists_step_of_split ran split
  exact ⟨middle, token, effect, stepped, by simp [here]⟩

/-- A run that writes texts only writes those of some of its tokens, in order. -/
theorem exists_kept_of_run {compiler : Compiler} {origin : Origin} {lines : LineIndex}
    {state final : State} {tokens : List Token} {texts : List (List Char)}
    (ran : (compiler.run origin lines state tokens).result = .ok (final, texts.map .text)) :
    ∃ kept : List Token, kept.Sublist tokens ∧ texts = kept.map Token.text := by
  induction tokens generalizing state texts with
  | nil =>
    obtain ⟨-, nothing⟩ := run_nil_ok_iff.1 ran
    exact ⟨[], .slnil, List.map_eq_nil_iff.1 nothing⟩
  | cons token tokens ih =>
    obtain ⟨effect, later, stepped, rest, split⟩ := run_cons_ok_iff.1 ran
    obtain ⟨first, others, rfl, here, rfl⟩ := List.map_eq_append_iff.1 split
    obtain ⟨kept, sublist, rfl⟩ := ih rest
    rcases texts_of_step stepped here with rfl | rfl
    · exact ⟨kept, sublist.cons _, rfl⟩
    · exact ⟨token :: kept, sublist.cons_cons _, rfl⟩

/-! ## Compilations -/

/-- The tokens that the compiler goes through for a source. -/
def Compiler.tokens (compiler : Compiler) (source : List Char) : List Token :=
  tokenize compiler.options.stripComments (normalizeLineEndings source)

/-- The run of the compiler over a source. -/
def Compiler.runOver (compiler : Compiler) (source : List Char) (origin : Origin) :
    Except TemplateError (State × List Instruction) :=
  (compiler.run origin (LineIndex.ofText (normalizeLineEndings source)) {}
    (compiler.tokens source)).result

/-- The run of the compiler over the first tokens of a source. -/
def Compiler.reaches (compiler : Compiler) (source : List Char) (origin : Origin)
    (before : List Token) : Except TemplateError (State × List Instruction) :=
  (compiler.run origin (LineIndex.ofText (normalizeLineEndings source)) {} before).result

/-- The result of a compilation in terms of the run over the source. -/
theorem compile_result (compiler : Compiler) (source : List Char) (origin : Origin) :
    (compiler.compile source origin).result =
      match compiler.runOver source origin with
      | .error error => .error error
      | .ok (final, instructions) =>
        match Compiler.unclosed? origin final with
        | some error => .error error
        | none => .ok ⟨instructions⟩ := by
  unfold Compiler.compile Compiler.runOver Compiler.tokens
  simp only
  generalize compiler.run origin (LineIndex.ofText (normalizeLineEndings source)) {}
    (tokenize compiler.options.stripComments (normalizeLineEndings source)) = ran
  obtain ⟨events, result⟩ := ran
  cases result with
  | error error => rfl
  | ok outcome =>
    obtain ⟨final, instructions⟩ := outcome
    simp only
    cases Compiler.unclosed? origin final with
    | some error => rfl
    | none => rfl

theorem unclosed?_eq_none_iff (origin : Origin) {final : State} :
    Compiler.unclosed? origin final = none ↔ ∀ block, final.spans block = [] := by
  unfold Compiler.unclosed?
  constructor
  · intro none block
    split at none <;> cases block <;> simp_all [State.spans]
  · intro none
    have loops := none .loop
    have conditionals := none .conditional
    simp_all [State.spans]

/-- A compilation succeeds when its run does and leaves no block open. -/
theorem compile_ok_iff {compiler : Compiler} {source : List Char} {origin : Origin}
    {program : Program} :
    (compiler.compile source origin).result = .ok program ↔
      ∃ final, compiler.runOver source origin = .ok (final, program.instructions) ∧
        ∀ block, final.spans block = [] := by
  rw [compile_result]
  cases ran : compiler.runOver source origin with
  | error error => simp
  | ok outcome =>
    obtain ⟨final, instructions⟩ := outcome
    simp only [Except.ok.injEq, Prod.mk.injEq, and_assoc, exists_eq_left']
    rw [← unclosed?_eq_none_iff origin]
    cases Compiler.unclosed? origin final with
    | some error => simp
    | none =>
      cases program
      simp

/-- One more token is reached if it does not fail. -/
theorem reaches_concat {compiler : Compiler} {source : List Char} {origin : Origin}
    {before : List Token} {token : Token} {state : State} {written : List Instruction}
    {effect : Effect} (reached : compiler.reaches source origin before = .ok (state, written))
    (stepped : compiler.step origin (LineIndex.ofText (normalizeLineEndings source)) state token =
      .ok effect) :
    compiler.reaches source origin (before ++ [token]) =
      .ok (effect.state, written ++ effect.instructions) := by
  have single := run_cons_ok_iff.2 ⟨effect, [], stepped, run_nil_ok_iff.2 ⟨rfl, rfl⟩, rfl⟩
  rw [List.append_nil] at single
  exact run_append_ok_iff.2 ⟨state, written, effect.instructions, reached, single, rfl⟩

/-- What was written for the first tokens is where the program begins. -/
theorem isPrefix_of_reaches {compiler : Compiler} {source : List Char} {origin : Origin}
    {program : Program} {before after : List Token} {state : State} {written : List Instruction}
    (compiled : (compiler.compile source origin).result = .ok program)
    (split : compiler.tokens source = before ++ after)
    (reached : compiler.reaches source origin before = .ok (state, written)) :
    written <+: program.instructions := by
  obtain ⟨final, ran, -⟩ := compile_ok_iff.1 compiled
  rw [Compiler.runOver, split] at ran
  obtain ⟨middle, front, later, same, -, whole⟩ := run_append_ok_iff.1 ran
  cases reached.symm.trans same
  exact ⟨later, whole.symm⟩

end Stencil.Program
