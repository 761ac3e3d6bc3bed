import Mathlib.Control.Monad.Basic
import Stencil.Proofs.Outputs

/-! # The escape policy

A tag that closes an autoescape block belongs to the nearest earlier opening tag
that none before it belongs to.  A value that a template prints is escaped when
the innermost block around it says so, and where there is no block when the
options do.

* `Matches` — which closing tag ends which block;
* `Encloses` / `IsInnermost` — the blocks around a place;
* `unmatched` — the blocks that are open, one by one, which the compiler keeps;
* `compile_escapes` — printed values are escaped exactly as the blocks say.
-/

namespace Stencil.Program

open Stencil.Expr (Resolved resolve composeModifiers applyModifier)
open Stencil.Source (LineIndex)
open Stencil.Tag
open Stencil.Template

/-! ## Blocks -/

/-- A tag that opens or closes an autoescape block. -/
inductive EscapeTag where
  | opens (mode : List Char)
  | closes
  deriving DecidableEq, Repr

section Blocks

variable {tags : List EscapeTag} {opener closer place : Nat} {mode : List Char}

/-- The tag at `index` opens a block. -/
def Opens (tags : List EscapeTag) (index : Nat) : Prop := ∃ mode, tags[index]? = some (.opens mode)

/-- The tag at `closer` ends the block that the tag at `opener` begins: of the
    blocks that were begun before and have not been ended it is the nearest. -/
def Matches (tags : List EscapeTag) (opener closer : Nat) : Prop :=
  Opens tags opener ∧ tags[closer]? = some .closes ∧ opener < closer ∧
    (∀ earlier, ∀ _ : earlier < closer, ¬ Matches tags opener earlier) ∧
    ∀ between, opener < between → between < closer → Opens tags between →
      ∃ earlier, ∃ _ : earlier < closer, Matches tags between earlier
termination_by closer

/-- The block that the tag at `opener` begins goes on up to `place`; one that is
    never ended goes on to the end of the template. -/
def Encloses (tags : List EscapeTag) (place opener : Nat) : Prop :=
  Opens tags opener ∧ opener < place ∧ ∀ closer, closer < place → ¬ Matches tags opener closer

/-- No other block around a place begins behind the one at `opener`. -/
def IsInnermost (tags : List EscapeTag) (place opener : Nat) : Prop :=
  Encloses tags place opener ∧ ∀ inner, Encloses tags place inner → inner ≤ opener

/-- The openers of the blocks around a place, innermost first. -/
def unmatched (tags : List EscapeTag) : Nat → List Nat
  | 0 => []
  | place + 1 =>
    match tags[place]? with
    | some (.opens _) => place :: unmatched tags place
    | some .closes => (unmatched tags place).tail
    | none => unmatched tags place

theorem matches_iff :
    Matches tags opener closer ↔
      Opens tags opener ∧ tags[closer]? = some .closes ∧ opener < closer ∧
        (∀ earlier, earlier < closer → ¬ Matches tags opener earlier) ∧
        ∀ between, opener < between → between < closer → Opens tags between →
          ∃ earlier, earlier < closer ∧ Matches tags between earlier := by
  rw [Matches]
  simp only [exists_prop]

/-- A closing tag ends the innermost block around it. -/
theorem matches_iff_isInnermost (closes : tags[place]? = some .closes) :
    Matches tags opener place ↔ IsInnermost tags place opener := by
  rw [matches_iff]
  constructor
  · rintro ⟨opens, -, before, unended, ended⟩
    refine ⟨⟨opens, before, unended⟩, ?_⟩
    rintro inner ⟨innerOpens, innerBefore, innerUnended⟩
    by_cases inside : opener < inner
    · obtain ⟨earlier, sooner, done⟩ := ended inner inside innerBefore innerOpens
      exact absurd done (innerUnended earlier sooner)
    · omega
  · rintro ⟨⟨opens, before, unended⟩, last⟩
    refine ⟨opens, closes, before, unended, ?_⟩
    intro between inside sooner betweenOpens
    by_cases ended : ∃ earlier, earlier < place ∧ Matches tags between earlier
    · exact ended
    · have encloses : Encloses tags place between :=
        ⟨betweenOpens, sooner, fun earlier early done => ended ⟨earlier, early, done⟩⟩
      have := last between encloses
      omega

/-- From one tag to the next a block stays open unless that tag ends it. -/
theorem encloses_succ_iff :
    Encloses tags (place + 1) opener ↔
      (opener = place ∧ Opens tags place) ∨
        (Encloses tags place opener ∧ ¬ Matches tags opener place) := by
  constructor
  · rintro ⟨opens, before, unended⟩
    by_cases same : opener = place
    · subst same
      exact .inl ⟨rfl, opens⟩
    · exact .inr ⟨⟨opens, by omega, fun closer early => unended closer (by omega)⟩,
        unended place (by omega)⟩
  · rintro (⟨rfl, opens⟩ | ⟨⟨opens, before, unended⟩, still⟩)
    · refine ⟨opens, by omega, fun closer early done => ?_⟩
      have later := (matches_iff.1 done).2.2.1
      omega
    · refine ⟨opens, by omega, fun closer early done => ?_⟩
      by_cases here : closer = place
      · exact still (here ▸ done)
      · exact unended closer (by omega) done

theorem lt_of_mem_unmatched (listed : opener ∈ unmatched tags place) : opener < place := by
  induction place with
  | zero => cases listed
  | succ place ih =>
    rw [unmatched] at listed
    split at listed
    · rcases List.mem_cons.1 listed with rfl | outer
      · exact Nat.lt_succ_self _
      · exact Nat.lt_succ_of_lt (ih outer)
    · exact Nat.lt_succ_of_lt (ih (List.mem_of_mem_tail listed))
    · exact Nat.lt_succ_of_lt (ih listed)

/-- The open blocks are listed once each, innermost first. -/
theorem sorted_unmatched (tags : List EscapeTag) (place : Nat) :
    (unmatched tags place).Pairwise (· > ·) := by
  induction place with
  | zero => exact .nil
  | succ place ih =>
    rw [unmatched]
    split
    · exact List.pairwise_cons.2 ⟨fun opener => lt_of_mem_unmatched, ih⟩
    · exact ih.tail
    · exact ih

/-- Without the first of them, descending numbers are those below another one. -/
theorem mem_tail_iff_of_sorted {numbers : List Nat} {n : Nat} (sorted : numbers.Pairwise (· > ·)) :
    n ∈ numbers.tail ↔ n ∈ numbers ∧ ∃ more ∈ numbers, n < more := by
  cases numbers with
  | nil => simp
  | cons first others =>
    obtain ⟨below, -⟩ := List.pairwise_cons.1 sorted
    rw [List.tail_cons]
    constructor
    · exact fun listed => ⟨.tail _ listed, first, .head _, below n listed⟩
    · rintro ⟨listed, more, among, less⟩
      rcases List.mem_cons.1 listed with rfl | listed
      · -- The first number is the greatest.
        rcases List.mem_cons.1 among with rfl | among
        · omega
        · have := below more among
          omega
      · exact listed

/-- The open blocks are those around the place. -/
theorem mem_unmatched : opener ∈ unmatched tags place ↔ Encloses tags place opener := by
  induction place generalizing opener with
  | zero => simp [unmatched, Encloses]
  | succ place ih =>
    have noMatch (other : tags[place]? ≠ some .closes) : ¬ Matches tags opener place :=
      fun done => other (matches_iff.1 done).2.1
    rw [encloses_succ_iff, unmatched]
    cases tag : tags[place]? with
    | none =>
      have notOpens : ¬ Opens tags place := by simp [Opens, tag]
      simp [notOpens, noMatch (by simp [tag]), ih]
    | some tag' =>
      cases tag' with
      | opens mode =>
        have opens : Opens tags place := ⟨mode, tag⟩
        simp [opens, noMatch (by simp [tag]), ih]
      | closes =>
        have notOpens : ¬ Opens tags place := by simp [Opens, tag]
        simp only [notOpens, and_false, false_or, matches_iff_isInnermost tag, IsInnermost,
          mem_tail_iff_of_sorted (sorted_unmatched tags place), ih]
        grind

/-- The innermost block is the first one in the list. -/
theorem head?_unmatched : (unmatched tags place).head? = some opener ↔ IsInnermost tags place opener := by
  have sorted := sorted_unmatched tags place
  simp only [IsInnermost, ← mem_unmatched]
  cases blocks : unmatched tags place with
  | nil => simp
  | cons first outer =>
    rw [blocks] at sorted
    obtain ⟨below, -⟩ := List.pairwise_cons.1 sorted
    simp only [List.head?_cons, Option.some.injEq, List.mem_cons, forall_eq_or_imp]
    constructor
    · rintro rfl
      exact ⟨.inl rfl, by omega, fun inner isOuter => Nat.le_of_lt (below inner isOuter)⟩
    · rintro ⟨rfl | isOuter, atMost, -⟩
      · rfl
      · have := below opener isOuter
        omega

theorem head?_unmatched_eq_none :
    (unmatched tags place).head? = none ↔ ∀ opener, ¬ Encloses tags place opener := by
  rw [List.head?_eq_none_iff, List.eq_nil_iff_forall_not_mem]
  simp only [mem_unmatched]

end Blocks

/-! ## The compiler's stack -/

/-- What a tag does to the open blocks, of which the compiler keeps whether they
    escape. -/
def EscapeTag.track (blocks : List Bool) : EscapeTag → List Bool
  | .opens mode => escapes mode :: blocks
  | .closes => blocks.tail

/-- Whether the block that the tag at an index begins escapes. -/
def escapesAt (tags : List EscapeTag) (index : Nat) : Bool :=
  match tags[index]? with
  | some (.opens mode) => escapes mode
  | _ => false

theorem foldl_track_take (tags : List EscapeTag) (place : Nat) :
    (tags.take place).foldl EscapeTag.track [] = (unmatched tags place).map (escapesAt tags) := by
  induction place with
  | zero => rfl
  | succ place ih =>
    rw [List.take_add_one, List.foldl_append, ih]
    cases tag : tags[place]? with
    | none => simp [unmatched, tag]
    | some tag' =>
      cases tag' with
      | opens mode => simp [unmatched, tag, EscapeTag.track, escapesAt]
      | closes => simp [unmatched, tag, EscapeTag.track, List.map_tail]

/-- The tag of an autoescape block that was found. -/
def escapeTagOf? (found : TagMatch) : Option EscapeTag :=
  match found.kind with
  | .autoescapeOpen => some (.opens (found.argument 1))
  | .autoescapeClose => some .closes
  | _ => none

/-- The tag of an autoescape block that a candidate is. -/
def escapeTag? (options : CompileOptions) (token : Token) : Option EscapeTag :=
  (classify? options.caseInsensitiveTags token.text).bind escapeTagOf?

/-- The active tags of autoescape blocks, in the order of the template. -/
def escapeTags (options : CompileOptions) (tokens : List Token) : List EscapeTag :=
  (activeFrom options .markup tokens).filterMap (escapeTag? options)

section Stack

variable {compiler : Compiler} {origin : Origin} {lines : LineIndex} {state final : State}
  {token : Token} {tokens : List Token} {effect : Effect} {instructions : List Instruction}

theorem escapes_ordinaryTag {span : Source.Span} {found : TagMatch}
    (tagged : compiler.ordinaryTag origin lines state span found = .ok effect) :
    effect.state.escapes = (escapeTagOf? found).toList.foldl EscapeTag.track state.escapes := by
  have effects := ordinaryTag_effect tagged
  generalize effect.state = next, effect.instructions = written at effects
  cases effects with
  | regionEnd kind =>
    simp only [List.mem_cons, List.not_mem_nil, or_false] at kind
    rcases kind with kind | kind | kind <;> simp [escapeTagOf?, kind]
  | output printed => cases printed <;> simp_all [escapeTagOf?]
  | _ => simp_all [escapeTagOf?, EscapeTag.track]

theorem step_escapes (stepped : compiler.step origin lines state token = .ok effect) :
    effect.state.escapes =
      (if IsActive compiler.options state.region token then escapeTag? compiler.options token
        else none).toList.foldl EscapeTag.track state.escapes := by
  have outcome := step_outcome compiler origin lines state token
  rw [stepped] at outcome
  cases outcome with
  | comment kind => simp [IsActive, kind]
  | literal kind => simp [IsActive, kind]
  | settled kind settled => simp [isActive_iff kind, settled]
  | @tag found _ kind left classified =>
    have active := (isActive_iff kind).2 left
    rw [step_of_active active classified] at stepped
    rw [if_pos active, escapeTag?, classified]
    exact escapes_ordinaryTag stepped
  | custom kind left unclassified => simp [escapeTag?, unclassified]

/-- A run keeps the blocks that the tags on its way leave open. -/
theorem run_escapes (permitted : Permitted compiler.options state.region)
    (ran : (compiler.run origin lines state tokens).result = .ok (final, instructions)) :
    final.escapes =
      ((activeFrom compiler.options state.region tokens).filterMap
        (escapeTag? compiler.options)).foldl EscapeTag.track state.escapes := by
  induction tokens generalizing state instructions with
  | nil =>
    obtain ⟨rfl, -⟩ := run_nil_ok_iff.1 ran
    rfl
  | cons token tokens ih =>
    obtain ⟨effect, later, stepped, rest, -⟩ := run_cons_ok_iff.1 ran
    rw [filterMap_activeFrom_cons, List.foldl_append, ← step_escapes stepped,
      ← step_region permitted stepped]
    exact ih (permitted_step permitted stepped) rest

end Stack

/-! ## Escaped values -/

/-- Whether what is printed at a place is escaped. -/
def Escaping (options : CompileOptions) (tags : List EscapeTag) (place : Nat) : Prop :=
  (∃ opener mode, IsInnermost tags place opener ∧ tags[opener]? = some (.opens mode) ∧
      mode ∉ ["off".toList, "false".toList, "0".toList, []]) ∨
    ((∀ opener, ¬ Encloses tags place opener) ∧ options.autoEscape = true)

/-- Whether an expression is escaped as a whole. -/
def IsEscaped (charset : List Char) (expr : Expr) : Prop := ∃ inner, expr = .escape inner charset

theorem composeModifiers_ne_escape (text : List Char) (inner : Expr) (charset : List Char) :
    composeModifiers text ≠ .escape inner charset := by
  unfold composeModifiers
  split
  · simp
  · rename_i base modifiers _
    -- The last modifier, if there is one, is the root.
    rcases List.eq_nil_or_concat modifiers with rfl | ⟨front, last, rfl⟩
    · simp
    · rw [List.concat_eq_append, List.foldl_append]
      simp [applyModifier]

theorem isEscaped_escape (charset : List Char) (inner : Expr) :
    IsEscaped charset (.escape inner charset) :=
  ⟨inner, rfl⟩

theorem not_isEscaped_resolve (text charset : List Char) (level : Nat) :
    ¬ IsEscaped charset (resolve text level none).expr := by
  rintro ⟨inner, escaped⟩
  simp only [resolve] at escaped
  split at escaped
  · exact composeModifiers_ne_escape _ _ _ escaped
  · cases escaped

theorem resolve_some {text : List Char} {level : Nat} (charset : List Char)
    (references : (resolve text level none).hasVariable = true)
    (value : (resolve text level none).isAssignment = false) :
    resolve text level (some charset) =
      ⟨.escape (resolve text level none).expr charset, true, false⟩ := by
  simp only [resolve] at *
  split at references
  · rename_i found
    simp only [found, if_true] at value ⊢
    simp [value]
  · cases references

theorem isOutput_resolve (text : List Char) (level : Nat) (charset? : Option (List Char)) :
    (resolve text level charset?).isOutput = (resolve text level none).isOutput := by
  simp only [resolve]
  split <;> rfl

/-- A place where values are escaped, as the compiler sees it. -/
theorem escaping_iff {options : CompileOptions} {tags : List EscapeTag} {place : Nat} :
    ((unmatched tags place).map (escapesAt tags)).head?.getD options.autoEscape = true ↔
      Escaping options tags place := by
  rw [List.head?_map, Escaping]
  cases innermost : (unmatched tags place).head? with
  | none =>
    have outside := head?_unmatched_eq_none.1 innermost
    simp [outside, IsInnermost]
  | some opener =>
    have isInnermost := head?_unmatched.1 innermost
    obtain ⟨mode, tag⟩ := isInnermost.1.1
    have only (other : Nat) (also : IsInnermost tags place other) : other = opener :=
      Option.some.inj ((head?_unmatched.2 also).symm.trans innermost)
    have enclosed : ¬ ∀ opener, ¬ Encloses tags place opener := fun none => none opener isInnermost.1
    simp only [Option.map_some, Option.getD_some, escapesAt, tag, enclosed, false_and, or_false]
    constructor
    · intro escaping
      exact ⟨opener, mode, isInnermost, tag, by simpa [escapes] using escaping⟩
    · rintro ⟨other, otherMode, also, otherTag, escaping⟩
      obtain rfl := only other also
      cases tag.symm.trans otherTag
      simpa [escapes] using escaping

/-- The instruction that a printed value becomes: the value itself, escaped as a
    whole under a condition and in a character set. -/
def PrintedAs (charset : List Char) (escaping : Prop) (value expr : Expr) : Prop :=
  (IsEscaped charset expr ↔ escaping) ∧ (expr = value ∨ expr = .escape value charset)

theorem printedAs_resolve {compiler : Compiler} {state : State} {text : List Char} {level : Nat}
    {escaping : Prop}
    (policy : state.escapes.head?.getD compiler.options.autoEscape = true ↔ escaping)
    (references : (resolve text level none).hasVariable = true)
    (value : (resolve text level none).isAssignment = false) :
    PrintedAs compiler.options.charset escaping (resolve text level none).expr
      (resolve text level (compiler.charset? state)).expr := by
  unfold Compiler.charset?
  split
  · rename_i on
    rw [resolve_some _ references value]
    exact ⟨iff_of_true (isEscaped_escape _ _) (policy.1 on), .inr rfl⟩
  · rename_i off
    exact ⟨iff_of_false (not_isEscaped_resolve _ _ _) (fun holds => off (policy.2 holds)), .inl rfl⟩

/-! ## Whole compilations -/

/-- What an active tag becomes in a program.  Values without a variable and
    assignments are not printed. -/
structure PrintedTag (options : CompileOptions) (level : Nat) (found : TagMatch) (escaping : Prop)
    (instruction : Instruction) : Prop where
  variableTag : found.kind = .variableTag →
    (resolve (withoutBraces found.whole) level none).hasVariable = true →
    (resolve (withoutBraces found.whole) level none).isAssignment = false →
    ∃ expr, instruction = .output expr ∧
      PrintedAs options.charset escaping (resolve (withoutBraces found.whole) level none).expr expr
  ternary : found.kind = .ternary →
    ∃ parts : Nat → Expr, instruction = .output (.ternary (parts 1) (parts 2) (parts 3)) ∧
      ∀ index ∈ [1, 2, 3],
        (resolve (found.argument index) level none).hasVariable = true →
        (resolve (found.argument index) level none).isAssignment = false →
        PrintedAs options.charset escaping (resolve (found.argument index) level none).expr
          (parts index)

/-- A value that a variable tag or a part of a ternary tag prints is escaped exactly
    when the innermost autoescape block around the tag says so, or the options
    where there is no block. -/
theorem compile_escapes (compiler : Compiler) (source : List Char) (origin : Origin)
    (program : Program) (compiled : (compiler.compile source origin).result = .ok program)
    (before after : List Token) (token : Token) (found : TagMatch)
    (split : compiler.tokens source = before ++ token :: after)
    (active : IsActive compiler.options (regionAt compiler.options .markup before) token)
    (classified : classify? compiler.options.caseInsensitiveTags token.text = some found)
    (prints : found.kind = .variableTag ∨ found.kind = .ternary) :
    ∃ state written instruction later,
      compiler.reaches source origin before = .ok (state, written) ∧
      program.instructions = written ++ instruction :: later ∧
      PrintedTag compiler.options state.loops.length found
        (Escaping compiler.options (escapeTags compiler.options (compiler.tokens source))
          (escapeTags compiler.options before).length)
        instruction := by
  obtain ⟨final, ran, -⟩ := compile_ok_iff.1 compiled
  unfold Compiler.runOver at ran
  rw [split] at ran
  obtain ⟨state, written, _, reached, rest, whole⟩ := run_append_ok_iff.1 ran
  obtain ⟨effect, later, stepped, -, rfl⟩ := run_cons_ok_iff.1 rest
  have region := (@run_region _ _ _ {} _ _ _ (permitted_markup _) reached).1
  rw [step_of_active (by rw [region]; exact active) classified] at stepped
  have policy : state.escapes.head?.getD compiler.options.autoEscape = true ↔
      Escaping compiler.options (escapeTags compiler.options (compiler.tokens source))
        (escapeTags compiler.options before).length := by
    have kept := @run_escapes _ _ _ {} _ _ _ (permitted_markup _) reached
    have front : escapeTags compiler.options before =
        (escapeTags compiler.options (compiler.tokens source)).take
          (escapeTags compiler.options before).length := by
      simp [escapeTags, split, activeFrom_append]
    rw [← escaping_iff, ← foldl_track_take, ← front]
    simp only [kept]
    rfl
  unfold Compiler.ordinaryTag at stepped
  cases prints with
  | inl kind =>
    simp only [kind, Except.ok.injEq] at stepped
    subst stepped
    refine ⟨state, written, _, later, reached, whole, ⟨fun _ references value => ?_, by simp [kind]⟩⟩
    rw [isOutput_resolve, Resolved.isOutput, references, value]
    exact ⟨_, rfl, printedAs_resolve policy references value⟩
  | inr kind =>
    simp only [kind, Except.ok.injEq] at stepped
    subst stepped
    refine ⟨state, written, _, later, reached, whole, ⟨by simp [kind], fun _ => ?_⟩⟩
    exact ⟨fun index =>
        (resolve (found.argument index) state.loops.length (compiler.charset? state)).expr,
      rfl, fun index _ references value => printedAs_resolve policy references value⟩

/-- Behind the end of an inner block the outer one decides. -/
theorem compile_escapes_nested :
    let compiler : Compiler := ⟨{}, .empty⟩
    let source :=
      "\x7bautoescape=\"on\"\x7d\x7bautoescape=\"off\"\x7d\x7b/autoescape\x7d\x7b$b\x7d".toList
    let program : Program := ⟨[.output (.escape (.code "$b".toList) "UTF-8".toList)]⟩
    let before := (compiler.tokens source).take 3
    let token : Token := ⟨.candidate, "\x7b$b\x7d".toList, ⟨48, 4⟩⟩
    let found : TagMatch := ⟨.variableTag, [], [.fixed token.text]⟩
    (compiler.compile source (.file [] [])).result = .ok program ∧
    compiler.tokens source = before ++ token :: [] ∧
    IsActive compiler.options (regionAt compiler.options .markup before) token ∧
    classify? compiler.options.caseInsensitiveTags token.text = some found ∧
    ∃ state written instruction later,
      compiler.reaches source (.file [] []) before = .ok (state, written) ∧
      program.instructions = written ++ instruction :: later ∧
      PrintedTag compiler.options state.loops.length found
        (Escaping compiler.options (escapeTags compiler.options (compiler.tokens source))
          (escapeTags compiler.options before).length)
        instruction := by
  intro compiler source program before token found
  have compiled : (compiler.compile source (.file [] [])).result = .ok program := by
    decide +kernel
  have split : compiler.tokens source = before ++ token :: [] := by decide +kernel
  have active : IsActive compiler.options (regionAt compiler.options .markup before) token := by
    decide +kernel
  have classified : classify? compiler.options.caseInsensitiveTags token.text = some found := by
    decide +kernel
  exact ⟨compiled, split, active, classified,
    compile_escapes _ _ _ _ compiled _ _ _ _ split active classified (.inl rfl)⟩

end Stencil.Program
