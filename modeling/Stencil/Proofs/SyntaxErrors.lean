import Stencil.Proofs.Regions
import Stencil.Proofs.Tiling

/-! # Syntax errors

A template is rejected exactly when its active loop tags or its active
conditional tags are not balanced.  The error names the first closing tag that
closes nothing, or else the innermost block that is left open, and its span
selects that tag in the source.

* `blockTags` — the active tags that open and close blocks;
* `stillOpen` / `Balanced` — open blocks, and sequences that leave none;
* `Fault` — the error that a sequence of tags calls for;
* `compile_error_exact` — the compiler reports it, and nothing else.
-/

namespace Stencil.Program

open Stencil.Source (LineIndex)
open Stencil.Tag
open Stencil.Template
open Stencil.Text (byteLength)

/-! ## Tags of blocks -/

/-- A tag that opens or closes a block. -/
structure BlockTag where
  block : Block
  opens : Bool
  token : Token
  deriving DecidableEq, Repr

/-- The tag that a candidate is, if it opens or closes a block. -/
def blockTag? (options : CompileOptions) (token : Token) : Option BlockTag := do
  let found ← classify? options.caseInsensitiveTags token.text
  match found.kind.opensBlock? with
  | some block => some ⟨block, true, token⟩
  | none => (found.kind.closesBlock?).map fun block => ⟨block, false, token⟩

/-- The active tags that open and close blocks, from a region on. -/
def blockTagsFrom (options : CompileOptions) (region : Region) (tokens : List Token) :
    List BlockTag :=
  (activeFrom options region tokens).filterMap (blockTag? options)

/-- The active tags that open and close blocks, in the order of the template. -/
def blockTags (options : CompileOptions) (tokens : List Token) : List BlockTag :=
  blockTagsFrom options .markup tokens

/-- How many blocks of a kind are opened. -/
def openers (block : Block) (tags : List BlockTag) : Nat :=
  tags.countP fun tag => tag.block = block ∧ tag.opens = true

/-- How many blocks of a kind are closed. -/
def closers (block : Block) (tags : List BlockTag) : Nat :=
  tags.countP fun tag => tag.block = block ∧ tag.opens = false

/-- Whether every tag that closes a block has one that opens it, and the other
    way round. -/
def Balanced (block : Block) (tags : List BlockTag) : Prop :=
  (∀ before, before <+: tags → closers block before ≤ openers block before) ∧
    closers block tags = openers block tags

/-- The open blocks of a kind after a tag. -/
def BlockTag.track (block : Block) (isOpen : List Token) (tag : BlockTag) : List Token :=
  if tag.block = block then (if tag.opens then tag.token :: isOpen else isOpen.tail) else isOpen

/-- The tags of a kind that are not closed yet, innermost first. -/
def stillOpen (block : Block) (tags : List BlockTag) : List Token :=
  tags.foldl (BlockTag.track block) []

/-- A tag that closes a block where none of its kind is open. -/
def IsStray (before : List BlockTag) (tag : BlockTag) : Prop :=
  tag.opens = false ∧ stillOpen tag.block before = []

/-- Tags none of which is stray. -/
def NoStray (tags : List BlockTag) : Prop :=
  ∀ before tag after, tags = before ++ tag :: after → ¬ IsStray before tag

/-- The error that tags call for, and the token it is about. -/
inductive Fault (origin : Origin) (tags : List BlockTag) : Token → TemplateError → Prop where
  /-- The first tag that closes nothing. -/
  | unexpectedClose {before after : List BlockTag} {tag : BlockTag}
      (split : tags = before ++ tag :: after) (clean : NoStray before)
      (stray : IsStray before tag) :
      Fault origin tags tag.token (.unexpectedClose tag.block origin tag.token.span)
  /-- The innermost conditional that is left open. -/
  | unclosedConditional {token : Token} {outer : List Token} (clean : NoStray tags)
      (left : stillOpen .conditional tags = token :: outer) :
      Fault origin tags token (.unclosed .conditional origin token.span)
  /-- The innermost loop that is left open when no conditional is. -/
  | unclosedLoop {token : Token} {outer : List Token} (clean : NoStray tags)
      (conditionals : stillOpen .conditional tags = [])
      (left : stillOpen .loop tags = token :: outer) :
      Fault origin tags token (.unclosed .loop origin token.span)

section Tags

variable {block : Block} {tags before after : List BlockTag} {tag : BlockTag}

@[simp] theorem stillOpen_concat (block : Block) (tags : List BlockTag) (tag : BlockTag) :
    stillOpen block (tags ++ [tag]) = tag.track block (stillOpen block tags) := by
  simp [stillOpen]

/-! ## Counting -/

theorem openers_concat (block : Block) (tags : List BlockTag) (tag : BlockTag) :
    openers block (tags ++ [tag]) =
      openers block tags + if tag.block = block ∧ tag.opens = true then 1 else 0 := by
  simp [openers, List.countP_append, List.countP_singleton]

theorem closers_concat (block : Block) (tags : List BlockTag) (tag : BlockTag) :
    closers block (tags ++ [tag]) =
      closers block tags + if tag.block = block ∧ tag.opens = false then 1 else 0 := by
  simp [closers, List.countP_append, List.countP_singleton]

theorem NoStray.of_front (clean : NoStray tags) (front : before <+: tags) : NoStray before := by
  obtain ⟨rest, rfl⟩ := front
  intro left tag right split
  exact clean left tag (right ++ rest) (by simp [split])

theorem noStray_concat_iff : NoStray (tags ++ [tag]) ↔ NoStray tags ∧ ¬ IsStray tags tag := by
  constructor
  · intro clean
    exact ⟨clean.of_front (List.prefix_append _ _), clean tags tag [] rfl⟩
  · rintro ⟨clean, last⟩ before other after split
    rcases List.eq_nil_or_concat after with rfl | ⟨front, final, rfl⟩
    · obtain ⟨rfl, same⟩ := List.append_inj' split rfl
      cases same
      exact last
    · rw [List.concat_eq_append, ← List.cons_append, ← List.append_assoc] at split
      obtain ⟨rfl, -⟩ := List.append_inj' split rfl
      exact clean before other front rfl

theorem openers_le (block : Block) (tags : List BlockTag) :
    openers block tags ≤ closers block tags + (stillOpen block tags).length := by
  -- A stray tag is counted although it closes nothing, hence no equation.
  induction tags using List.reverseRecOn with
  | nil => simp [openers]
  | append_singleton tags tag ih =>
    rw [openers_concat, closers_concat, stillOpen_concat]
    unfold BlockTag.track
    by_cases same : tag.block = block <;> cases opens : tag.opens <;> simp [same] <;> omega

/-- Without stray tags no block is closed twice. -/
theorem NoStray.openers_eq (clean : NoStray tags) (block : Block) :
    openers block tags = closers block tags + (stillOpen block tags).length := by
  induction tags using List.reverseRecOn with
  | nil => rfl
  | append_singleton tags tag ih =>
    obtain ⟨clean, last⟩ := noStray_concat_iff.1 clean
    have counted := ih clean
    rw [openers_concat, closers_concat, stillOpen_concat]
    unfold BlockTag.track
    by_cases same : tag.block = block
    · cases opens : tag.opens with
      | true => simp [same]; omega
      | false =>
        have filled : stillOpen block tags ≠ [] := fun empty => last ⟨opens, same ▸ empty⟩
        have := List.length_pos_iff.2 filled
        simp [same]
        omega
    · simp [same]
      omega

/-- No tag is stray when no prefix closes more blocks than it opens. -/
theorem noStray_iff :
    NoStray tags ↔
      ∀ block before, before <+: tags → closers block before ≤ openers block before := by
  constructor
  · intro clean block before front
    have counted := (clean.of_front front).openers_eq block
    omega
  · rintro bounded before tag after rfl ⟨closes, empty⟩
    have counted := bounded tag.block (before ++ [tag]) ⟨after, by simp⟩
    have atMost := openers_le tag.block before
    rw [empty, List.length_nil] at atMost
    rw [openers_concat, closers_concat, if_pos ⟨rfl, closes⟩, if_neg (by simp [closes])] at counted
    omega

/-- Tags are balanced when none is stray and nothing is left open. -/
theorem balanced_iff :
    Balanced .loop tags ∧ Balanced .conditional tags ↔
      NoStray tags ∧ ∀ block, stillOpen block tags = [] := by
  constructor
  · rintro ⟨⟨loopsNested, loopsEven⟩, conditionalsNested, conditionalsEven⟩
    have clean : NoStray tags := by
      refine noStray_iff.2 fun block before front => ?_
      cases block with
      | loop => exact loopsNested before front
      | conditional => exact conditionalsNested before front
    refine ⟨clean, fun block => List.length_eq_zero_iff.1 ?_⟩
    have counted := clean.openers_eq block
    cases block <;> omega
  · rintro ⟨clean, closed⟩
    have even (block : Block) : closers block tags = openers block tags := by
      have counted := clean.openers_eq block
      rw [closed block, List.length_nil] at counted
      omega
    exact ⟨⟨noStray_iff.1 clean .loop, even .loop⟩,
      ⟨noStray_iff.1 clean .conditional, even .conditional⟩⟩

/-- There is only one first stray tag. -/
theorem first_stray_unique {otherBefore otherAfter : List BlockTag} {other : BlockTag}
    (same : before ++ tag :: after = otherBefore ++ other :: otherAfter)
    (clean : NoStray before) (stray : IsStray before tag)
    (otherClean : NoStray otherBefore) (otherStray : IsStray otherBefore other) :
    tag = other := by
  -- Of two different places the earlier one lies in what comes before the other.
  rcases List.append_eq_append_iff.1 same with ⟨gap, rfl, tail⟩ | ⟨gap, rfl, tail⟩
  · cases gap with
    | nil => exact (List.cons.inj tail).1
    | cons first gap =>
      obtain ⟨rfl, -⟩ := List.cons.inj tail
      exact absurd stray (otherClean before tag gap rfl)
  · cases gap with
    | nil => exact (List.cons.inj tail).1.symm
    | cons first gap =>
      obtain ⟨rfl, -⟩ := List.cons.inj tail
      exact absurd otherStray (clean otherBefore other gap rfl)

theorem exists_of_mem_stillOpen {token : Token} (left : token ∈ stillOpen block tags) :
    ∃ tag ∈ tags, tag.token = token := by
  induction tags using List.reverseRecOn with
  | nil => cases left
  | append_singleton tags tag ih =>
    have earlier (older : token ∈ stillOpen block tags) :
        ∃ other ∈ tags ++ [tag], other.token = token := by
      obtain ⟨other, listed, same⟩ := ih older
      exact ⟨other, List.mem_append_left _ listed, same⟩
    rw [stillOpen_concat] at left
    unfold BlockTag.track at left
    split at left
    · split at left
      · rcases List.mem_cons.1 left with rfl | older
        · exact ⟨tag, by simp, rfl⟩
        · exact earlier older
      · exact earlier (List.mem_of_mem_tail left)
    · exact earlier left

/-- Where a tag is stray there is a first one. -/
theorem exists_first_stray (found : ¬ NoStray tags) :
    ∃ before tag after, tags = before ++ tag :: after ∧ NoStray before ∧ IsStray before tag := by
  induction tags using List.reverseRecOn with
  | nil => exact absurd (by simp [NoStray]) found
  | append_singleton tags last ih =>
    by_cases clean : NoStray tags
    · by_cases stray : IsStray tags last
      · exact ⟨tags, last, [], rfl, clean, stray⟩
      · exact absurd (noStray_concat_iff.2 ⟨clean, stray⟩) found
    · obtain ⟨before, tag, after, rfl, clean, stray⟩ := ih clean
      exact ⟨before, tag, after ++ [last], by simp, clean, stray⟩

/-! ## Faults -/

/-- Tags call for an error unless both kinds of them are balanced. -/
theorem exists_fault_iff {origin : Origin} :
    (∃ error token, Fault origin tags token error) ↔
      ¬ (Balanced .loop tags ∧ Balanced .conditional tags) := by
  rw [balanced_iff]
  constructor
  · rintro ⟨error, token, fault⟩ ⟨clean, closed⟩
    cases fault with
    | unexpectedClose split _ stray => exact clean _ _ _ split stray
    | unclosedConditional _ left => simp [closed] at left
    | unclosedLoop _ _ left => simp [closed] at left
  · intro unbalanced
    by_cases clean : NoStray tags
    · cases conditionals : stillOpen .conditional tags with
      | cons token outer => exact ⟨_, token, .unclosedConditional clean conditionals⟩
      | nil =>
        cases loops : stillOpen .loop tags with
        | cons token outer => exact ⟨_, token, .unclosedLoop clean conditionals loops⟩
        | nil =>
          refine absurd ⟨clean, fun block => ?_⟩ unbalanced
          cases block with
          | loop => exact loops
          | conditional => exact conditionals
    · obtain ⟨before, tag, after, split, clean, stray⟩ := exists_first_stray clean
      exact ⟨_, tag.token, .unexpectedClose split clean stray⟩

/-- An error is about one of the tags. -/
theorem Fault.about {origin : Origin} {token : Token} {error : TemplateError}
    (fault : Fault origin tags token error) :
    (∃ tag ∈ tags, tag.token = token) ∧ error.span? = some token.span := by
  cases fault with
  | @unexpectedClose before after tag split => exact ⟨⟨tag, by simp [split], rfl⟩, rfl⟩
  | unclosedConditional _ left => exact ⟨exists_of_mem_stillOpen (by rw [left]; exact .head _), rfl⟩
  | unclosedLoop _ _ left => exact ⟨exists_of_mem_stillOpen (by rw [left]; exact .head _), rfl⟩

end Tags

/-! ## Steps -/

/-- The blocks that are open in a state are those that tags leave open. -/
def Tracks (before : List BlockTag) (state : State) : Prop :=
  ∀ block, state.spans block = (stillOpen block before).map Token.span

/-- The block tag that is reached with a token, if it is an active one. -/
def reached? (options : CompileOptions) (region : Region) (token : Token) : Option BlockTag :=
  if IsActive options region token then blockTag? options token else none

/-- What a step makes of the block tag that it reaches. -/
inductive Follows (origin : Origin) (before : List BlockTag) :
    Option BlockTag → Except TemplateError Effect → Prop where
  | keeps {effect : Effect} (tracks : Tracks before effect.state) :
      Follows origin before none (.ok effect)
  | tracks {tag : BlockTag} {effect : Effect} (clean : ¬ IsStray before tag)
      (tracks : Tracks (before ++ [tag]) effect.state) :
      Follows origin before (some tag) (.ok effect)
  | stray {tag : BlockTag} (stray : IsStray before tag) :
      Follows origin before (some tag) (.error (.unexpectedClose tag.block origin tag.token.span))

section Steps

variable {compiler : Compiler} {options : CompileOptions} {origin : Origin} {lines : LineIndex}
  {state : State} {region : Region} {token : Token} {before : List BlockTag}

theorem blockTagsFrom_cons (options : CompileOptions) (region : Region) (token : Token)
    (tokens : List Token) :
    blockTagsFrom options region (token :: tokens) =
      (reached? options region token).toList ++
        blockTagsFrom options (regionAfter options region token) tokens :=
  filterMap_activeFrom_cons _ options region token tokens

theorem token_of_blockTag? {tag : BlockTag} (isTag : blockTag? options token = some tag) :
    tag.token = token := by
  simp only [blockTag?, Option.bind_eq_bind, Option.bind_eq_some_iff] at isTag
  obtain ⟨found, -, isTag⟩ := isTag
  split at isTag
  · cases isTag
    rfl
  · obtain ⟨block, -, rfl⟩ := Option.map_eq_some_iff.1 isTag
    rfl

theorem mem_of_mem_blockTags {tokens : List Token} {tag : BlockTag}
    (listed : tag ∈ blockTags options tokens) :
    tag.token ∈ tokens ∧ tag.token.kind = .candidate := by
  obtain ⟨token, active, isTag⟩ := List.mem_filterMap.1 listed
  rw [token_of_blockTag? isTag]
  exact mem_of_mem_activeFrom active

theorem reached?_of_not_active (passive : ¬ IsActive options region token) :
    reached? options region token = none :=
  if_neg passive

theorem reached?_of_unclassified
    (unclassified : classify? options.caseInsensitiveTags token.text = none) :
    reached? options region token = none := by
  simp [reached?, blockTag?, unclassified]

theorem reached?_of_opensBlock? {found : TagMatch} {block : Block}
    (active : IsActive options region token)
    (classified : classify? options.caseInsensitiveTags token.text = some found)
    (opens : found.kind.opensBlock? = some block) :
    reached? options region token = some ⟨block, true, token⟩ := by
  simp [reached?, active, blockTag?, classified, opens]

theorem reached?_of_closesBlock? {found : TagMatch} {block : Block}
    (active : IsActive options region token)
    (classified : classify? options.caseInsensitiveTags token.text = some found)
    (closes : found.kind.closesBlock? = some block) :
    reached? options region token = some ⟨block, false, token⟩ := by
  have opensNone : found.kind.opensBlock? = none := by
    cases kind : found.kind <;> first | rfl | (rw [kind] at closes; cases closes)
  simp [reached?, active, blockTag?, classified, opensNone, closes]

theorem reached?_of_neither {found : TagMatch}
    (classified : classify? options.caseInsensitiveTags token.text = some found)
    (opens : found.kind.opensBlock? = none) (closes : found.kind.closesBlock? = none) :
    reached? options region token = none := by
  simp [reached?, blockTag?, classified, opens, closes]

theorem Tracks.congr {other : State} (tracks : Tracks before state)
    (loops : other.loops = state.loops) (conditionals : other.conditionals = state.conditionals) :
    Tracks before other := by
  intro block
  rw [← tracks block]
  cases block with
  | loop => exact loops
  | conditional => exact conditionals

/-- The open blocks after a tag that changes the blocks of its kind only. -/
theorem Tracks.withSpans (tracks : Tracks before state) (tag : BlockTag)
    {spans : List Source.Span}
    (changed : spans = (tag.track tag.block (stillOpen tag.block before)).map Token.span) :
    Tracks (before ++ [tag]) (state.withSpans spans tag.block) := by
  intro block
  rw [stillOpen_concat]
  by_cases same : block = tag.block
  · subst same
    rw [State.spans_withSpans_self, changed]
  · rw [State.spans_withSpans_of_ne _ _ same, tracks block, BlockTag.track, if_neg (Ne.symm same)]

/-- An active tag that is reached changes the open blocks by what it is. -/
theorem TagOutcome.follows {found : TagMatch} {result : Except TemplateError Effect}
    (active : IsActive options state.region token) (tracks : Tracks before state)
    (classified : classify? options.caseInsensitiveTags token.text = some found)
    (outcome : TagOutcome options origin state token.span found result) :
    Follows origin before (reached? options state.region token) result := by
  cases outcome with
  | opensRegion opens =>
    obtain ⟨noOpener, noCloser⟩ := no_block_of_opensRegion? opens
    rw [reached?_of_neither classified noOpener noCloser]
    exact .keeps (tracks.congr rfl rfl)
  | opensLoop kind =>
    have opens : found.kind.opensBlock? = some .loop := by rw [kind]; rfl
    rw [reached?_of_opensBlock? active classified opens]
    refine .tracks (by simp [IsStray]) (tracks.withSpans ⟨.loop, true, token⟩ ?_)
    simp [BlockTag.track, tracks .loop]
  | opensIf kind =>
    have opens : found.kind.opensBlock? = some .conditional := by rw [kind]; rfl
    rw [reached?_of_opensBlock? active classified opens]
    refine .tracks (by simp [IsStray]) (tracks.withSpans ⟨.conditional, true, token⟩ ?_)
    simp [BlockTag.track, tracks .conditional]
  | @closes block opener outer kind isOpen =>
    rw [reached?_of_closesBlock? active classified kind]
    rw [tracks block] at isOpen
    refine .tracks ?_ (tracks.withSpans ⟨block, false, token⟩ ?_)
    · rintro ⟨-, empty⟩
      simp only at empty
      simp [empty] at isOpen
    · simp [BlockTag.track, List.map_tail, isOpen]
  | @stray block kind noneOpen =>
    rw [reached?_of_closesBlock? active classified kind]
    rw [tracks block, List.map_eq_nil_iff] at noneOpen
    have stray : IsStray before ⟨block, false, token⟩ := ⟨rfl, noneOpen⟩
    exact .stray stray
  | escapes kind =>
    rw [reached?_of_neither classified (by rcases kind with kind | kind <;> rw [kind] <;> rfl)
      (by rcases kind with kind | kind <;> rw [kind] <;> rfl)]
    exact .keeps (tracks.congr rfl rfl)
  | writes _ opens closes =>
    rw [reached?_of_neither classified opens closes]
    exact .keeps tracks

/-- A token changes the open blocks by the tag that it is. -/
theorem StepOutcome.follows {result : Except TemplateError Effect} (tracks : Tracks before state)
    (outcome : StepOutcome compiler origin state token result) :
    Follows origin before (reached? compiler.options state.region token) result := by
  cases outcome with
  | comment kind =>
    rw [reached?_of_not_active (by simp [IsActive, kind])]
    exact .keeps tracks
  | literal kind =>
    rw [reached?_of_not_active (by simp [IsActive, kind])]
    exact .keeps tracks
  | settled kind settled =>
    rw [reached?_of_not_active (by simp [isActive_iff kind, settled])]
    exact .keeps (tracks.congr rfl rfl)
  | tag kind left classified outcome =>
    exact outcome.follows ((isActive_iff kind).2 left) tracks classified
  | custom _ _ unclassified =>
    rw [reached?_of_unclassified unclassified]
    exact .keeps tracks

end Steps

/-! ## Runs -/

/-- How a run ends over tags: at the first stray one, or after all of them. -/
inductive RunFollows (origin : Origin) (tags : List BlockTag) :
    Except TemplateError (State × List Instruction) → Prop where
  | finishes {final : State} {instructions : List Instruction} (clean : NoStray tags)
      (tracks : Tracks tags final) : RunFollows origin tags (.ok (final, instructions))
  | stops {before after : List BlockTag} {tag : BlockTag} (split : tags = before ++ tag :: after)
      (clean : NoStray before) (stray : IsStray before tag) :
      RunFollows origin tags (.error (.unexpectedClose tag.block origin tag.token.span))

theorem RunFollows.map {origin : Origin} {tags : List BlockTag} {written : List Instruction}
    {result : Except TemplateError (State × List Instruction)}
    (follows : RunFollows origin tags result) :
    RunFollows origin tags
      (result.map fun (final, instructions) => (final, written ++ instructions)) := by
  cases follows with
  | finishes clean tracks => exact .finishes clean tracks
  | stops split clean stray => exact .stops split clean stray

/-- Whatever tags came before, a run follows the rest of them. -/
theorem run_follows {compiler : Compiler} {origin : Origin} {lines : LineIndex} {state : State}
    {before : List BlockTag} {tokens : List Token} (clean : NoStray before)
    (tracks : Tracks before state) (permitted : Permitted compiler.options state.region) :
    RunFollows origin (before ++ blockTagsFrom compiler.options state.region tokens)
      (compiler.run origin lines state tokens).result := by
  -- Each step moves one tag from the tokens ahead to those that came before.
  induction tokens generalizing before state with
  | nil =>
    simp only [blockTagsFrom, activeFrom, List.filterMap_nil, List.append_nil]
    exact .finishes clean tracks
  | cons token tokens ih =>
    have follows := (step_outcome compiler origin lines state token).follows tracks
    rw [blockTagsFrom_cons, result_run_cons]
    cases stepped : compiler.step origin lines state token with
    | error error =>
      -- Only a stray tag stops a run, and no tag before it was stray.
      rw [stepped] at follows
      generalize reached? compiler.options state.region token = tag at follows ⊢
      cases follows with
      | stray stray => exact .stops rfl clean stray
    | ok effect =>
      rw [stepped] at follows
      have stillPermitted := permitted_step permitted stepped
      rw [← step_region permitted stepped]
      generalize reached? compiler.options state.region token = tag at follows ⊢
      cases follows with
      | keeps tracks => exact (ih clean tracks stillPermitted).map
      | tracks accepted tracks =>
        have later := ih (noStray_concat_iff.2 ⟨clean, accepted⟩) tracks stillPermitted
        rw [List.append_assoc] at later
        exact later.map

/-! ## Compilations -/

theorem runOver_follows (compiler : Compiler) (source : List Char) (origin : Origin) :
    RunFollows origin (blockTags compiler.options (compiler.tokens source))
      (compiler.runOver source origin) := by
  have clean : NoStray [] := by simp [NoStray]
  have nothing : Tracks [] {} := fun block => by cases block <;> rfl
  exact run_follows clean nothing (permitted_markup _)

/-- The blocks that are left open at the end are reported as `Fault` says. -/
theorem unclosed?_eq_some_iff {origin : Origin} {tags : List BlockTag} {final : State}
    {error : TemplateError} (clean : NoStray tags) (tracks : Tracks tags final) :
    Compiler.unclosed? origin final = some error ↔ ∃ token, Fault origin tags token error := by
  have loops : final.loops = (stillOpen .loop tags).map Token.span := tracks .loop
  have conditionals : final.conditionals = (stillOpen .conditional tags).map Token.span :=
    tracks .conditional
  unfold Compiler.unclosed?
  rw [loops, conditionals]
  constructor
  · intro reported
    cases left : stillOpen .conditional tags with
    | cons token outer =>
      simp only [left, List.map_cons, Option.some.injEq] at reported
      exact ⟨token, reported ▸ .unclosedConditional clean left⟩
    | nil =>
      cases leftLoops : stillOpen .loop tags with
      | cons token outer =>
        simp only [left, leftLoops, List.map_cons, List.map_nil, Option.some.injEq] at reported
        exact ⟨token, reported ▸ .unclosedLoop clean left leftLoops⟩
      | nil => simp [left, leftLoops] at reported
  · rintro ⟨token, fault⟩
    cases fault with
    | unexpectedClose split _ stray => exact absurd stray (clean _ _ _ split)
    | unclosedConditional _ left => simp [left]
    | unclosedLoop _ none left => simp [none, left]

/-- The compiler reports the error that the tags of the template call for. -/
theorem compile_eq_error_iff {compiler : Compiler} {source : List Char} {origin : Origin}
    {error : TemplateError} :
    (compiler.compile source origin).result = .error error ↔
      ∃ token, Fault origin (blockTags compiler.options (compiler.tokens source)) token error := by
  have follows := runOver_follows compiler source origin
  rw [compile_result]
  generalize blockTags compiler.options (compiler.tokens source) = tags at follows ⊢
  generalize compiler.runOver source origin = result at follows ⊢
  cases follows with
  | @finishes final instructions clean tracks =>
    -- No tag is stray, so only the blocks that are left open can be at fault.
    rw [← unclosed?_eq_some_iff clean tracks]
    cases unclosed : Compiler.unclosed? origin final <;> simp [unclosed]
  | @stops before after tag split clean stray =>
    simp only [Except.error.injEq]
    constructor
    · rintro rfl
      exact ⟨tag.token, .unexpectedClose split clean stray⟩
    · rintro ⟨token, fault⟩
      cases fault with
      | unexpectedClose otherSplit otherClean otherStray =>
        rw [first_stray_unique (split.symm.trans otherSplit) clean stray otherClean otherStray]
      | unclosedConditional allClean => exact absurd stray (allClean _ _ _ split)
      | unclosedLoop allClean => exact absurd stray (allClean _ _ _ split)

/-- A template is rejected exactly when its loop tags or its conditional tags are
    not balanced.  The error is the one that they call for, and its span selects
    the candidate that it is about in the normalized source. -/
theorem compile_error_exact (compiler : Compiler) (source : List Char) (origin : Origin)
    (short : byteLength (normalizeLineEndings source) < 2 ^ 32) :
    let tags := blockTags compiler.options (compiler.tokens source)
    ((∃ error, (compiler.compile source origin).result = .error error) ↔
      ¬ (Balanced .loop tags ∧ Balanced .conditional tags)) ∧
    (∀ error, (compiler.compile source origin).result = .error error ↔
      ∃ token, Fault origin tags token error) ∧
    (∀ token error, Fault origin tags token error →
      token ∈ compiler.tokens source ∧ token.kind = .candidate ∧
        error.span? = some token.span ∧
        token.span.Selects (normalizeLineEndings source) token.text) := by
  intro tags
  refine ⟨?_, fun error => compile_eq_error_iff, ?_⟩
  · simp only [compile_eq_error_iff]
    exact exists_fault_iff
  · intro token error fault
    obtain ⟨⟨tag, listed, rfl⟩, span⟩ := fault.about
    obtain ⟨inSource, candidate⟩ := mem_of_mem_blockTags listed
    exact ⟨inSource, candidate, span, selects_of_mem_tokenize short inSource⟩

/-- The end of a loop in a noparse region does not count, nor does the carriage
    return; the end of a conditional that was never opened does. -/
theorem compile_error_exact_noparse :
    byteLength (normalizeLineEndings
      "\r\n\x7bloop=\"$x\"\x7d\x7bnoparse\x7d\x7b/loop\x7d\x7b/noparse\x7d\x7b/if\x7d".toList) <
      2 ^ 32 ∧
    (Compiler.compile ⟨{}, .empty⟩
      "\r\n\x7bloop=\"$x\"\x7d\x7bnoparse\x7d\x7b/loop\x7d\x7b/noparse\x7d\x7b/if\x7d".toList
      (.file [] [])).result = .error (.unexpectedClose .conditional (.file [] []) ⟨38, 5⟩) := by
  have short : byteLength (normalizeLineEndings
      "\r\n\x7bloop=\"$x\"\x7d\x7bnoparse\x7d\x7b/loop\x7d\x7b/noparse\x7d\x7b/if\x7d".toList) <
      2 ^ 32 := by decide
  refine ⟨short, ((compile_error_exact ⟨{}, .empty⟩ _ _ short).2.1 _).2 ?_⟩
  have split : blockTags {} (Compiler.tokens ⟨{}, .empty⟩
      "\r\n\x7bloop=\"$x\"\x7d\x7bnoparse\x7d\x7b/loop\x7d\x7b/noparse\x7d\x7b/if\x7d".toList) =
      ([] ++ [⟨.loop, true, .candidate, "\x7bloop=\"$x\"\x7d".toList, ⟨1, 11⟩⟩]) ++
        ⟨.conditional, false, .candidate, "\x7b/if\x7d".toList, ⟨38, 5⟩⟩ :: [] := by
    decide +kernel
  have clean : NoStray ([] ++ [⟨.loop, true, .candidate, "\x7bloop=\"$x\"\x7d".toList, ⟨1, 11⟩⟩]) :=
    noStray_concat_iff.2 ⟨by simp [NoStray], by simp [IsStray]⟩
  exact ⟨_, .unexpectedClose split clean ⟨rfl, rfl⟩⟩

end Stencil.Program
