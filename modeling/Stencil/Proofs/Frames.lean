import Mathlib.Control.Monad.Basic
import Stencil.Proofs.Regions

/-! # Regions frame what stands around them

Tags turn three switches on and off: one for noparse regions, one for dropped
text and one for raw code.  Nothing in the tags keeps two switches from being on
together; that none ever are is a law of whole compilations, and it is why the
compiler gets by with a single `Region`.

What a region holds has no effect beyond it.  Noparse regions are copied token
by token, dropped text leaves nothing, and behind either the compiler is in the
state in which it came upon the opening tag.

* `Switches.next` — what a token does to the switches;
* `next_switches` — of the switches one at most is ever on;
* `run_noParse` / `run_ignored` — what is made of the inside of a region;
* `compile_regionLaws` — all of it, at every point of a compilation.
-/

namespace Stencil.Program

open Stencil.Source (LineIndex)
open Stencil.Tag
open Stencil.Template

/-! ## Switches -/

/-- The switches that tags turn on and off. -/
structure Switches where
  noParse : Bool := false
  ignored : Bool := false
  rawCode : Bool := false
  deriving DecidableEq, Repr

/-- At most one switch is on. -/
def Switches.Exclusive (switches : Switches) : Prop :=
  ¬ (switches.noParse ∧ switches.ignored) ∧ ¬ (switches.noParse ∧ switches.rawCode) ∧
    ¬ (switches.ignored ∧ switches.rawCode)

/-- Turns on the switch of a tag.  Raw code that is not allowed is dropped. -/
def Switches.open (options : CompileOptions) (switches : Switches) : TagKind → Switches
  | .ignoreOpen => { switches with ignored := true }
  | .noParseOpen => { switches with noParse := true }
  | .rawCodeOpen =>
    if options.allowRawCode then { switches with rawCode := true }
    else { switches with ignored := true }
  | _ => switches

/-- The switches after a token.  Every closing tag turns off its own switch only,
    whichever others are on. -/
def Switches.next (options : CompileOptions) (switches : Switches) (token : Token) : Switches :=
  let closes (kind : TagKind) : Bool := kind.occursIn options.caseInsensitiveTags token.text
  if token.kind ≠ .candidate then switches
  else if !switches.noParse && closes .rawCodeClose && !options.allowRawCode then
    { switches with ignored := false }
  else if !switches.noParse && closes .rawCodeClose && switches.rawCode then
    { switches with rawCode := false }
  else if !switches.noParse && closes .ignoreClose then { switches with ignored := false }
  else if switches.ignored then switches
  else if closes .noParseClose then { switches with noParse := false }
  else if switches.noParse || switches.rawCode then switches
  else
    match classify? options.caseInsensitiveTags token.text with
    | some found => switches.open options found.kind
    | none => switches

/-- The switches after tokens that are reached with all of them off. -/
def switchesAfter (options : CompileOptions) (tokens : List Token) : Switches :=
  tokens.foldl (Switches.next options) {}

/-- The one switch that is on in a region. -/
def Region.switches : Region → Switches
  | .markup => {}
  | .noParse => { noParse := true }
  | .ignored => { ignored := true }
  | .rawCode => { rawCode := true }

theorem Region.switches_exclusive (region : Region) : region.switches.Exclusive := by
  cases region <;> simp [Region.switches, Switches.Exclusive]

theorem Region.switches_injective {region other : Region}
    (same : region.switches = other.switches) : region = other := by
  cases region <;> cases other <;> first | rfl | cases same

theorem Region.noParse_of_switches {region : Region} (on : region.switches.noParse = true) :
    region = .noParse := by
  cases region <;> first | rfl | cases on

theorem Region.ignored_of_switches {region : Region} (on : region.switches.ignored = true) :
    region = .ignored := by
  cases region <;> first | rfl | cases on

theorem open_markup (options : CompileOptions) (kind : TagKind) :
    Region.markup.switches.open options kind =
      ((opensRegion? options kind).getD .markup).switches := by
  cases kind <;> simp only [Switches.open, opensRegion?, Option.getD] <;> first | rfl | skip
  split <;> rfl

theorem next_of_not_candidate {options : CompileOptions} {switches : Switches} {token : Token}
    (other : token.kind ≠ .candidate) : switches.next options token = switches := by
  simp [Switches.next, other]

/-- An active tag finds all switches off and turns on its own. -/
theorem next_of_active {options : CompileOptions} {token : Token}
    (active : IsActive options .markup token) :
    Region.markup.switches.next options token =
      match classify? options.caseInsensitiveTags token.text with
      | some found => Region.markup.switches.open options found.kind
      | none => Region.markup.switches := by
  obtain ⟨candidate, -, passive⟩ := active
  simp only [ClosesRegion, not_or, Bool.not_eq_true] at passive
  obtain ⟨noIgnore, noNoParse, noRawCode⟩ := passive
  simp [Switches.next, Region.switches, candidate, noIgnore, noNoParse, Bool.and_comm, noRawCode]

/-- A candidate that is no active tag turns off the switch of the region that it
    ends. -/
theorem next_of_not_active {options : CompileOptions} {region : Region} {token : Token}
    (permitted : Permitted options region) (candidate : token.kind = .candidate)
    (passive : ¬ IsActive options region token) :
    region.switches.next options token =
      (if endsRegion options region token.text then .markup else region : Region).switches := by
  cases region with
  | markup =>
    -- Outside regions only a closing tag is not looked at, and it finds nothing to turn off.
    have closes : ClosesRegion options token.text := by
      by_cases closes : ClosesRegion options token.text
      · exact closes
      · exact absurd ⟨candidate, rfl, closes⟩ passive
    rcases closes with ignore | noParse | ⟨refused, rawCode⟩
    · simp [Switches.next, Region.switches, endsRegion, candidate, ignore]
    · simp [Switches.next, Region.switches, endsRegion, candidate, noParse]
    · simp [Switches.next, Region.switches, endsRegion, candidate, refused, rawCode]
  | noParse =>
    by_cases ends : TagKind.noParseClose.occursIn options.caseInsensitiveTags token.text = true
    · simp [Switches.next, Region.switches, endsRegion, candidate, ends]
    · simp [Switches.next, Region.switches, endsRegion, candidate, ends]
  | ignored =>
    -- Dropped text ends at either of two closing tags.
    by_cases refused : options.allowRawCode = false ∧
        TagKind.rawCodeClose.occursIn options.caseInsensitiveTags token.text = true
    · simp [Switches.next, Region.switches, endsRegion, candidate, refused]
    by_cases ends : TagKind.ignoreClose.occursIn options.caseInsensitiveTags token.text = true
    · simp [Switches.next, Region.switches, endsRegion, candidate, ends]
    · simp [Switches.next, Region.switches, endsRegion, candidate, Bool.and_comm, refused, ends]
  | rawCode =>
    have allowed := permitted rfl
    by_cases ends : TagKind.rawCodeClose.occursIn options.caseInsensitiveTags token.text = true
    · simp [Switches.next, Region.switches, endsRegion, candidate, allowed, ends]
    · simp [Switches.next, Region.switches, endsRegion, candidate, allowed, ends]

/-- From a single switch a token leads to a single switch again. -/
theorem next_switches {options : CompileOptions} {region : Region} (token : Token)
    (permitted : Permitted options region) :
    region.switches.next options token = (regionAfter options region token).switches := by
  unfold regionAfter
  by_cases active : IsActive options region token
  · obtain ⟨-, rfl, -⟩ := id active
    rw [if_pos active, next_of_active active]
    cases classify? options.caseInsensitiveTags token.text with
    | none => rfl
    | some found => exact open_markup options found.kind
  · rw [if_neg active]
    by_cases candidate : token.kind = .candidate
    · simp [next_of_not_active permitted candidate active, candidate]
    · simp [next_of_not_candidate candidate, candidate]

/-! ## Inside regions -/

/-- A token that ends a region. -/
def Ends (options : CompileOptions) (region : Region) (token : Token) : Prop :=
  token.kind = .candidate ∧ endsRegion options region token.text = true

/-- What a noparse region makes of tokens: all but comments is text. -/
def copies (tokens : List Token) : List Instruction :=
  (tokens.filter (·.kind ≠ .comment)).map fun token => .text token.text

section Inside

variable {compiler : Compiler} {origin : Origin} {lines : LineIndex} {state : State}
  {token : Token} {tokens : List Token}

theorem step_noParse (inside : state.region = .noParse)
    (goesOn : ¬ Ends compiler.options .noParse token) :
    compiler.step origin lines state token = .ok { state, instructions := copies [token] } := by
  unfold Compiler.step
  cases kind : token.kind with
  | comment => simp [copies, kind]
  | literal => simp [copies, kind, inside]
  | candidate =>
    have settled : settleRegion? compiler.options .noParse token.text =
        some (.noParse, [.text token.text]) := by
      simp_all [Ends, endsRegion, settleRegion?]
    simp only [Compiler.candidate, inside, settled]
    simp [copies, kind, ← inside]

theorem step_ignored (inside : state.region = .ignored)
    (goesOn : ¬ Ends compiler.options .ignored token) :
    compiler.step origin lines state token = .ok { state } := by
  unfold Compiler.step
  cases kind : token.kind with
  | comment => rfl
  | literal => simp [inside]
  | candidate =>
    have settled : settleRegion? compiler.options .ignored token.text = some (.ignored, []) := by
      simp_all [Ends, endsRegion, settleRegion?]
      grind
    simp only [Compiler.candidate, inside, settled]
    simp [← inside]

theorem flatMap_copies (tokens : List Token) :
    tokens.flatMap (fun token => copies [token]) = copies tokens := by
  induction tokens with
  | nil => rfl
  | cons token tokens ih =>
    rw [List.flatMap_cons, ih, copies, copies, ← List.map_append, ← List.filter_append]
    rfl

theorem run_noParse (inside : state.region = .noParse)
    (goesOn : ∀ token ∈ tokens, ¬ Ends compiler.options .noParse token) :
    compiler.run origin lines state tokens = ⟨[], .ok (state, copies tokens)⟩ := by
  rw [run_of_steady fun token listed => step_noParse inside (goesOn token listed), flatMap_copies]

theorem run_ignored (inside : state.region = .ignored)
    (goesOn : ∀ token ∈ tokens, ¬ Ends compiler.options .ignored token) :
    compiler.run origin lines state tokens = ⟨[], .ok (state, [])⟩ := by
  have nothing : tokens.flatMap (fun _ => ([] : List Instruction)) = [] := by simp
  rw [run_of_steady fun token listed => step_ignored inside (goesOn token listed), nothing]

/-- The end of a noparse region or of dropped text leads back to tags. -/
theorem step_ends {region : Region} (inside : state.region = region)
    (suppressed : region = .noParse ∨ region = .ignored) (ends : Ends compiler.options region token) :
    ∃ instructions, compiler.step origin lines state token =
        .ok { state := { state with region := .markup }, instructions } ∧
      ∀ instruction ∈ instructions, region = .ignored ∧ instruction = .notice rawCodeCloseNotice := by
  obtain ⟨candidate, ends⟩ := ends
  have settled : ∃ instructions,
      settleRegion? compiler.options region token.text = some (.markup, instructions) ∧
        ∀ instruction ∈ instructions,
          region = .ignored ∧ instruction = .notice rawCodeCloseNotice := by
    rcases suppressed with rfl | rfl
    · exact ⟨[], by simp_all [endsRegion, settleRegion?, Region.leave], by simp⟩
    · by_cases refused : compiler.options.allowRawCode = false ∧
          TagKind.rawCodeClose.occursIn compiler.options.caseInsensitiveTags token.text
      · exact ⟨[.notice rawCodeCloseNotice], by simp [settleRegion?, Region.leave, refused],
          by simp⟩
      · exact ⟨[], by simp_all [endsRegion, settleRegion?, Region.leave]; grind, by simp⟩
  obtain ⟨instructions, settled, notices⟩ := settled
  refine ⟨instructions, ?_, notices⟩
  simp [Compiler.step, Compiler.candidate, candidate, inside, settled]

/-- A tag that begins a region changes nothing else. -/
theorem step_begins {region : Region} (markup : state.region = .markup)
    (suppressed : region = .noParse ∨ region = .ignored)
    (begins : regionAfter compiler.options .markup token = region) :
    ∃ instructions, compiler.step origin lines state token =
        .ok { state := { state with region }, instructions } ∧
      ∀ instruction ∈ instructions, region = .ignored ∧ instruction = .notice rawCodeNotice := by
  have active : IsActive compiler.options .markup token := by
    by_cases active : IsActive compiler.options .markup token
    · exact active
    · simp only [regionAfter, if_neg active, ite_self] at begins
      rcases suppressed with rfl | rfl <;> cases begins
  rw [regionAfter, if_pos active] at begins
  cases classified : classify? compiler.options.caseInsensitiveTags token.text with
  | none =>
    rw [classified] at begins
    rcases suppressed with rfl | rfl <;> cases begins
  | some found =>
    have opens : opensRegion? compiler.options found.kind = some region := by
      cases opens : opensRegion? compiler.options found.kind <;>
        rcases suppressed with rfl | rfl <;> simp_all
    rw [step_of_active (markup ▸ active) classified]
    unfold Compiler.ordinaryTag
    cases kind : found.kind with
    | ignoreOpen =>
      cases kind ▸ opens
      exact ⟨[], rfl, by simp⟩
    | noParseOpen =>
      cases kind ▸ opens
      exact ⟨[], rfl, by simp⟩
    | rawCodeOpen =>
      cases allowed : compiler.options.allowRawCode with
      | true =>
        rcases suppressed with rfl | rfl <;> simp [kind, opensRegion?, allowed] at opens
      | false =>
        have dropped : Region.ignored = region := by simpa [kind, opensRegion?, allowed] using opens
        exact ⟨[.notice rawCodeNotice], by simp [dropped], by simp [dropped]⟩
    | _ => cases kind ▸ opens

/-- Behind a noparse region or dropped text the compiler is in the state in which
    it came upon the opening tag. -/
theorem run_framed {region : Region} {opener closer : Token} (markup : state.region = .markup)
    (suppressed : region = .noParse ∨ region = .ignored)
    (begins : regionAfter compiler.options .markup opener = region)
    (goesOn : ∀ token ∈ tokens, ¬ Ends compiler.options region token)
    (ends : Ends compiler.options region closer) :
    ∃ written, (compiler.run origin lines state (opener :: (tokens ++ [closer]))).result =
        .ok (state, written) ∧
      (region = .noParse → written = copies tokens) ∧
      (region = .ignored → ∀ instruction ∈ written, ∃ message, instruction = .notice message) := by
  obtain ⟨first, began, firstNotices⟩ := @step_begins compiler origin lines state opener region
    markup suppressed begins
  obtain ⟨last, ended, lastNotices⟩ := @step_ends compiler origin lines { state with region } closer
    region rfl suppressed ends
  have back : { state with region := .markup } = state := by rw [← markup]
  rw [back] at ended
  -- The state between the tags differs from the one before them in the region only.
  have between : (compiler.run origin lines { state with region } tokens).result =
      .ok ({ state with region }, if region = .noParse then copies tokens else []) := by
    rcases suppressed with rfl | rfl
    · rw [run_noParse rfl goesOn]
      rfl
    · rw [run_ignored rfl goesOn]
      rfl
  have closing : (compiler.run origin lines { state with region } [closer]).result =
      .ok (state, last) :=
    run_cons_ok_iff.2 ⟨_, [], ended, rfl, by simp⟩
  have rest := run_append_ok_iff.2 ⟨_, _, _, between, closing, rfl⟩
  refine ⟨_, run_cons_ok_iff.2 ⟨_, _, began, rest, rfl⟩, ?_, ?_⟩
  · rintro rfl
    have nothing (instructions : List Instruction) {message : List Char}
        (notices : ∀ instruction ∈ instructions,
          Region.noParse = .ignored ∧ instruction = .notice message) : instructions = [] :=
      List.eq_nil_iff_forall_not_mem.2 fun instruction listed => by cases (notices _ listed).1
    simp [nothing first firstNotices, nothing last lastNotices]
  · rintro rfl instruction listed
    simp only [reduceCtorEq, if_false, List.nil_append, List.mem_append] at listed
    rcases listed with listed | listed
    · exact ⟨_, (firstNotices instruction listed).2⟩
    · exact ⟨_, (lastNotices instruction listed).2⟩

theorem foldl_next_switches {options : CompileOptions} {region : Region}
    (permitted : Permitted options region) :
    tokens.foldl (Switches.next options) region.switches =
      (regionAt options region tokens).switches := by
  induction tokens generalizing region with
  | nil => rfl
  | cons token tokens ih =>
    rw [List.foldl_cons, next_switches token permitted]
    exact ih (permitted_regionAfter permitted token)

/-- Noparse regions and dropped text are entered from outside regions only. -/
theorem markup_of_begins {options : CompileOptions} {region entered : Region}
    (suppressed : entered = .noParse ∨ entered = .ignored) (outside : region ≠ entered)
    (begins : regionAfter options region token = entered) : region = .markup := by
  unfold regionAfter at begins
  split at begins
  · rename_i active
    exact active.2.1
  · split at begins
    · rcases suppressed with rfl | rfl <;> cases begins
    · exact absurd begins outside

end Inside

/-! ## Whole compilations -/

/-- What holds in a state that is reached with the tokens `before`, the tokens
    `rest` being those to come. -/
structure RegionLaws (compiler : Compiler) (source : List Char) (origin : Origin)
    (before rest : List Token) (state : State) : Prop where
  exclusive : (switchesAfter compiler.options before).Exclusive
  /-- The compiler's region is the switch that is on. -/
  region : switchesAfter compiler.options before = state.region.switches
  /-- Up to its end a noparse region is text, token by token, and nothing else. -/
  copied : (switchesAfter compiler.options before).noParse = true →
    ∀ inside, inside <+: rest → (∀ token ∈ inside, ¬ Ends compiler.options .noParse token) →
      ∀ lines, compiler.run origin lines state inside = ⟨[], .ok (state, copies inside)⟩
  /-- Up to its end dropped text leaves nothing. -/
  dropped : (switchesAfter compiler.options before).ignored = true →
    ∀ inside, inside <+: rest → (∀ token ∈ inside, ¬ Ends compiler.options .ignored token) →
      ∀ lines, compiler.run origin lines state inside = ⟨[], .ok (state, [])⟩
  /-- The open blocks and the escaping are the same behind a region as before it. -/
  framed : ∀ opener inside closer after, rest = opener :: (inside ++ closer :: after) →
    ∀ region, region = .noParse ∨ region = .ignored →
    switchesAfter compiler.options before ≠ region.switches →
    switchesAfter compiler.options (before ++ [opener]) = region.switches →
    (∀ token ∈ inside, ¬ Ends compiler.options region token) →
    Ends compiler.options region closer →
    ∃ final written,
      compiler.reaches source origin (before ++ opener :: (inside ++ [closer])) =
        .ok (final, written) ∧
      final.loops = state.loops ∧ final.conditionals = state.conditionals ∧
      final.escapes = state.escapes ∧ final.region = .markup

/-- At every point of a compilation at most one switch is on, what a noparse region
    or dropped text holds has no effect beyond it, and the blocks around it are
    left as they were. -/
theorem compile_regionLaws (compiler : Compiler) (source : List Char) (origin : Origin)
    (before rest : List Token) (state : State) (written : List Instruction)
    (split : compiler.tokens source = before ++ rest)
    (reached : compiler.reaches source origin before = .ok (state, written)) :
    RegionLaws compiler source origin before rest state := by
  obtain ⟨followed, permitted⟩ := @run_region _ _ _ {} _ _ _ (permitted_markup _) reached
  have switches : switchesAfter compiler.options before = state.region.switches := by
    rw [followed]
    exact foldl_next_switches (permitted_markup _)
  constructor
  case exclusive =>
    rw [switches]
    exact state.region.switches_exclusive
  case region => exact switches
  case copied =>
    intro on inside _ goesOn lines
    rw [switches] at on
    exact run_noParse (Region.noParse_of_switches on) goesOn
  case dropped =>
    intro on inside _ goesOn lines
    rw [switches] at on
    exact run_ignored (Region.ignored_of_switches on) goesOn
  case framed =>
    rintro opener inside closer after rfl region suppressed off on goesOn ends
    rw [switches] at off
    rw [switchesAfter, List.foldl_append, ← switchesAfter, switches, List.foldl_cons,
      next_switches opener permitted, List.foldl_nil] at on
    have begins := Region.switches_injective on
    have outside : state.region ≠ region := fun same => off (by rw [same])
    have markup := markup_of_begins suppressed outside begins
    rw [markup] at begins
    obtain ⟨later, ran, -⟩ := run_framed markup suppressed begins goesOn ends
    exact ⟨state, written ++ later, run_append_ok_iff.2 ⟨_, _, _, reached, ran, rfl⟩, rfl, rfl, rfl,
      markup⟩

/-- The end of a conditional and that of dropped text count for nothing in a
    noparse region. -/
theorem compile_regionLaws_noparse :
    let compiler : Compiler := ⟨{}, .empty⟩
    let source := "\x7bif=\"$a\"\x7d\x7bnoparse\x7d\x7b/if\x7d\x7b*\x7d\x7b/noparse\x7d".toList
    let before := (compiler.tokens source).take 2
    let rest := (compiler.tokens source).drop 2
    let state : State := { conditionals := [⟨0, 9⟩], region := .noParse }
    compiler.tokens source = before ++ rest ∧
    compiler.reaches source (.file [] []) before = .ok (state, [.ifOpen (.code "$a".toList)]) ∧
    RegionLaws compiler source (.file [] []) before rest state ∧
    copies (rest.take 2) = [.text "\x7b/if\x7d".toList, .text "\x7b*\x7d".toList] := by
  intro compiler source before rest state
  have split : compiler.tokens source = before ++ rest := (List.take_append_drop 2 _).symm
  have reached : compiler.reaches source (.file [] []) before =
      .ok (state, [.ifOpen (.code "$a".toList)]) := by
    decide +kernel
  exact ⟨split, reached, compile_regionLaws _ _ _ _ _ _ _ split reached, by decide +kernel⟩

end Stencil.Program
