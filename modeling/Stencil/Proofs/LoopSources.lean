import Stencil.Proofs.LoopReferences
import Stencil.Proofs.SubscriptChains

/-! # Collections of loops without a sigil

A loop may leave out the `$` in front of its collection, which is then put there by
the header.  By that time placeholders have been numbered and keys have been quoted, so
that a name that is written without it misses both.

* `IsWordPath` — the paths of dotted and bracketed words;
* `resolve_path`, `resolve_variable_path` — the two spellings of a collection;
* `result_run_lines` — what is compiled does not depend on the lines of the source;
* `compile_loopSources` — when both spellings open the same loop.
-/

namespace Stencil.Expr

open Stencil.Template (isQuote)
open Stencil.Text

variable {name : List Char} {segments : List ChainSegment}

/-! ## Paths -/

/-- A key in dots or brackets that is a word. -/
def ChainSegment.IsWord : ChainSegment → Prop
  | dotted key | bracketed key => key ≠ [] ∧ ∀ c ∈ key, isNameChar c = true
  | property _ => False

instance : (segment : ChainSegment) → Decidable segment.IsWord
  | .dotted key | .bracketed key =>
    @instDecidableAnd _ _ _ (List.decidableBAll (fun c => isNameChar c = true) key)
  | .property _ => inferInstanceAs (Decidable False)

/-- A path of words. -/
def IsWordPath (segments : List ChainSegment) : Prop := ∀ segment ∈ segments, segment.IsWord

instance (segments : List ChainSegment) : Decidable (IsWordPath segments) :=
  List.decidableBAll _ segments

theorem ChainSegment.IsWord.isProper {segment : ChainSegment} (word : segment.IsWord) :
    segment.IsProper := by
  cases segment with
  | dotted key | bracketed key => exact ⟨key, word.1, word.2, .inl rfl⟩
  | property => exact word.elim

/-- The marks around the keys of a path. -/
def pathMarks : List Char := ['.', '[', ']', '"']

theorem ChainSegment.IsWord.chars {segment : ChainSegment} (word : segment.IsWord) :
    ∀ c ∈ segment.written ++ segment.canonical, isNameChar c = true ∨ c ∈ pathMarks := by
  intro c inside
  cases segment with
  | dotted key | bracketed key =>
    by_cases inKey : c ∈ key
    · exact .inl (word.2 c inKey)
    · simp [written, canonical, quotedKey, inKey] at inside
      simp [pathMarks]
      tauto
  | property => exact word.elim

/-- What no path can have in it, as it is written or as host code has it. -/
theorem IsWordPath.not_mem (path : IsWordPath segments) {c : Char} (other : isNameChar c = false)
    (noMark : c ∉ pathMarks) :
    c ∉ segments.flatMap ChainSegment.written ∧ c ∉ segments.flatMap ChainSegment.canonical := by
  have nowhere (segment : ChainSegment) (listed : segment ∈ segments) :
      c ∉ segment.written ++ segment.canonical := fun inside =>
    ((path segment listed).chars c inside).elim (fun char => by simp [other] at char) noMark
  simp only [List.mem_append, not_or] at nowhere
  simp only [List.mem_flatMap, not_exists, not_and]
  exact ⟨fun segment listed => (nowhere segment listed).1,
    fun segment listed => (nowhere segment listed).2⟩

/-- Every key grows when it is quoted. -/
theorem IsWordPath.length_add_le (path : IsWordPath segments) :
    (segments.flatMap ChainSegment.written).length + segments.length ≤
      (segments.flatMap ChainSegment.canonical).length := by
  induction segments with
  | nil => simp
  | cons segment segments ih =>
    have later := ih fun other inside => path other (.tail _ inside)
    have grows : segment.written.length + 1 ≤ segment.canonical.length := by
      cases segment with
      | dotted key | bracketed key =>
        simp only [ChainSegment.written, ChainSegment.canonical, quotedKey, List.length_cons,
          List.length_append, List.length_nil]
        omega
      | property => exact (path _ (.head _)).elim
    simp only [List.flatMap_cons, List.length_append, List.length_cons]
    omega

/-! ## Two spellings -/

theorem hasVariable_of_not_mem {text : List Char} (plain : '$' ∉ text) :
    hasVariable text = false := by
  induction text with
  | nil => rfl
  | cons c rest ih =>
    rw [List.mem_cons, not_or] at plain
    have other : c ≠ '$' := Ne.symm plain.1
    simp [hasVariable, other, ih plain.2]

/-- Without a sigil nothing of a path is looked at. -/
theorem resolve_path (identifier : IsIdentifier name) (path : IsWordPath segments) (level : Nat) :
    (resolve (name ++ segments.flatMap ChainSegment.written) level none).expr =
      .code (name ++ segments.flatMap ChainSegment.written) := by
  have plain : '$' ∉ name ++ segments.flatMap ChainSegment.written := by
    have sigils := path.not_mem (c := '$') rfl (by decide)
    exact List.not_mem_append (identifier.not_mem rfl) sigils.1
  have kept : renameBindings level (name ++ segments.flatMap ChainSegment.written) =
      name ++ segments.flatMap ChainSegment.written := by
    rw [renameBindings, renameFrom_of_not_mem _ plain, ite_self]
  rw [resolve, kept, if_neg (by simp [hasVariable_of_not_mem plain])]

/-- With it the name is numbered and the keys are quoted. -/
theorem resolve_variable_path (identifier : IsIdentifier name) (path : IsWordPath segments)
    (level : Nat) :
    (resolve ('$' :: (name ++ segments.flatMap ChainSegment.written)) level none).expr =
      .code ('$' :: (numbered level name ++ segments.flatMap ChainSegment.canonical)) := by
  have named := identifier.numbered level
  have proper : ∀ segment ∈ segments, segment.IsProper := fun segment listed =>
    (path segment listed).isProper
  have ends : ∀ c ∈ (segments.flatMap ChainSegment.written).head?, isWord c = false := by
    cases segments with
    | nil => simp
    | cons segment segments =>
      cases segment with
      | dotted | bracketed =>
        rintro c ⟨⟩
        decide
      | property => exact (path _ (.head _)).elim
  have renamed := renameBindings_append identifier ends (path.not_mem rfl (by decide)).1 level
  have quoted := (quoteSubscripts_chain named proper).1
  have referring :
      hasVariable ('$' :: (numbered level name ++ segments.flatMap ChainSegment.written)) = true := by
    simp [hasVariable, named.startsName_append]
  have pipeless : '|' ∉ '$' :: (numbered level name ++ segments.flatMap ChainSegment.canonical) := by
    have pipes := path.not_mem (c := '|') rfl (by decide)
    exact List.not_mem_cons_of_ne_of_not_mem (by decide)
      (List.not_mem_append (named.not_mem rfl) pipes.2)
  simp only [resolve, renamed, if_pos referring, quoted, composeModifiers_of_not_mem pipeless]

/-- The two spellings are the same code when there are no keys and no number. -/
theorem path_eq_iff (path : IsWordPath segments) (level : Nat) :
    name ++ segments.flatMap ChainSegment.written =
        numbered level name ++ segments.flatMap ChainSegment.canonical ↔
      segments = [] ∧ (level = 0 ∨ name ∉ bindingNames) := by
  have filled : decimal level ≠ [] := Nat.toDigits_ne_nil
  constructor
  · intro same
    have lengths := congrArg List.length same
    have grows := path.length_add_le
    have longer : name.length ≤ (numbered level name).length := by
      unfold numbered
      split <;> simp
    simp only [List.length_append] at lengths
    obtain rfl : segments = [] := List.length_eq_zero_iff.1 (by omega)
    refine ⟨rfl, ?_⟩
    by_contra both
    rw [not_or, not_not] at both
    simp [numbered, both, filled] at same
  · rintro ⟨rfl, outside⟩
    have unnumbered : ¬ (name ∈ bindingNames ∧ level ≠ 0) := by tauto
    rw [numbered, if_neg unnumbered]
    rfl

end Stencil.Expr

namespace Stencil.Program

open Stencil.Expr
open Stencil.Source (LineIndex)
open Stencil.Tag
open Stencil.Template
open Stencil.Text

variable {compiler : Compiler} {origin : Origin} {lines others : LineIndex} {state : State}

/-! ## Lines -/

/-- Where a line ends matters for what is reported only. -/
theorem ordinaryTag_lines (lines others : LineIndex) (span : Source.Span) (found : TagMatch) :
    (compiler.ordinaryTag origin lines state span found).map
        (fun effect => (effect.state, effect.instructions)) =
      (compiler.ordinaryTag origin others state span found).map
        (fun effect => (effect.state, effect.instructions)) := by
  unfold Compiler.ordinaryTag
  cases found.kind with
  | autoescapeClose =>
    dsimp only
    cases state.escapes <;> rfl
  | _ => rfl

theorem step_lines (compiler : Compiler) (origin : Origin) (state : State) (lines others : LineIndex)
    (token : Token) :
    (compiler.step origin lines state token).map
        (fun effect => (effect.state, effect.instructions)) =
      (compiler.step origin others state token).map
        (fun effect => (effect.state, effect.instructions)) := by
  unfold Compiler.step
  cases token.kind with
  | candidate =>
    dsimp only
    unfold Compiler.candidate
    split
    · rfl
    · split
      · exact ordinaryTag_lines lines others _ _
      · rfl
  | _ => rfl

theorem result_run_lines (lines others : LineIndex) (tokens : List Token) :
    (compiler.run origin lines state tokens).result =
      (compiler.run origin others state tokens).result := by
  induction tokens generalizing state with
  | nil => rfl
  | cons token tokens ih =>
    -- What follows a step depends on it by its state and its instructions only.
    have through (lines : LineIndex) :
        (compiler.run origin lines state (token :: tokens)).result =
          ((compiler.step origin lines state token).map
            fun effect => (effect.state, effect.instructions)).bind fun done =>
              (compiler.run origin lines done.1 tokens).result.map fun rest =>
                (rest.1, done.2 ++ rest.2) := by
      rw [result_run_cons]
      cases compiler.step origin lines state token <;> rfl
    simp only [through, step_lines compiler origin state lines others token, ih]

/-! ## Headers -/

section Headers

variable {name : List Char} {segments : List ChainSegment} {found bare sigiled : TagMatch}

theorem source_loopHeader_path (identifier : IsIdentifier name) (path : IsWordPath segments)
    (collection : found.argument? 1 = some (name ++ segments.flatMap ChainSegment.written))
    (level : Nat) :
    (loopHeader found (level + 1)).source =
      .direct ('$' :: (name ++ segments.flatMap ChainSegment.written)) := by
  have none (c : Char) (other : isNameChar c = false) (noMark : c ∉ pathMarks) :
      ¬ (name ++ segments.flatMap ChainSegment.written).contains c = true := by
    rw [List.contains_iff_mem]
    exact List.not_mem_append (identifier.not_mem other) (path.not_mem other noMark).1
  simp only [loopHeader, TagMatch.argument, collection, Option.getD_some, Nat.add_sub_cancel,
    resolve_path identifier path, if_neg (none '(' rfl (by decide)), if_neg (none '$' rfl (by decide))]

theorem source_loopHeader_variable_path (identifier : IsIdentifier name) (path : IsWordPath segments)
    (collection : found.argument? 1 = some ('$' :: (name ++ segments.flatMap ChainSegment.written)))
    (level : Nat) :
    (loopHeader found (level + 1)).source =
      .direct ('$' :: (numbered level name ++ segments.flatMap ChainSegment.canonical)) := by
  have named := identifier.numbered level
  have noCall :
      ¬ ('$' :: (numbered level name ++ segments.flatMap ChainSegment.canonical)).contains '(' =
        true := by
    have calls := path.not_mem (c := '(') rfl (by decide)
    rw [List.contains_iff_mem]
    exact List.not_mem_cons_of_ne_of_not_mem (by decide)
      (List.not_mem_append (named.not_mem rfl) calls.2)
  simp only [loopHeader, TagMatch.argument, collection, Option.getD_some, Nat.add_sub_cancel,
    resolve_variable_path identifier path, if_neg noCall]
  simp

/-- Headers of one level differ by their collections only, when their bindings are the same. -/
theorem loopHeader_congr (bindings : ∀ index ∈ [2, 3], bare.argument? index = sigiled.argument? index)
    (level : Nat) :
    loopHeader bare level =
      { loopHeader sigiled level with source := (loopHeader bare level).source } := by
  have key := bindings 2 (by decide)
  have value := bindings 3 (by decide)
  simp only [loopHeader, key, value]

end Headers

/-- At one place of a template, a loop over a bare path of words and a loop over the same
    path behind a `$`, with the same bindings, have headers that are the same but for
    their sources: the bare path is taken as it is, and in the other one the name is
    numbered and the keys are quoted.  So they open the same loop exactly when there is
    no key, and the name is none of `key`, `value` and `counter` or no loop is open. -/
theorem compile_loopSources (compiler : Compiler) (source other : List Char) (origin : Origin)
    (program otherProgram : Program)
    (compiled : (compiler.compile source origin).result = .ok program)
    (otherCompiled : (compiler.compile other origin).result = .ok otherProgram)
    (before after otherAfter : List Token) (token otherToken : Token) (bare sigiled : TagMatch)
    (split : compiler.tokens source = before ++ token :: after)
    (otherSplit : compiler.tokens other = before ++ otherToken :: otherAfter)
    (active : IsActive compiler.options (regionAt compiler.options .markup before) token)
    (otherActive : IsActive compiler.options (regionAt compiler.options .markup before) otherToken)
    (classified : classify? compiler.options.caseInsensitiveTags token.text = some bare)
    (otherClassified :
      classify? compiler.options.caseInsensitiveTags otherToken.text = some sigiled)
    (kind : bare.kind = .loopOpen) (otherKind : sigiled.kind = .loopOpen)
    (name : List Char) (segments : List ChainSegment)
    (identifier : IsIdentifier name) (path : IsWordPath segments)
    (collection : bare.argument? 1 = some (name ++ segments.flatMap ChainSegment.written))
    (otherCollection :
      sigiled.argument? 1 = some ('$' :: (name ++ segments.flatMap ChainSegment.written)))
    (bindings : ∀ index ∈ [2, 3], bare.argument? index = sigiled.argument? index) :
    ∃ state written header otherHeader later otherLater,
      compiler.reaches source origin before = .ok (state, written) ∧
      compiler.reaches other origin before = .ok (state, written) ∧
      openers .loop (blockTags compiler.options before) =
        closers .loop (blockTags compiler.options before) + state.loops.length ∧
      program.instructions = written ++ .loopOpen header :: later ∧
      otherProgram.instructions = written ++ .loopOpen otherHeader :: otherLater ∧
      header = { otherHeader with
        source := .direct ('$' :: (name ++ segments.flatMap ChainSegment.written)) } ∧
      otherHeader.source =
        .direct ('$' :: (numbered state.loops.length name ++
          segments.flatMap ChainSegment.canonical)) ∧
      (header = otherHeader ↔
        segments = [] ∧ (state.loops.length = 0 ∨ name ∉ bindingNames)) := by
  obtain ⟨state, written, effect, later, reached, meant, whole⟩ :=
    exists_effect_of_compile compiled split active classified
  obtain ⟨_, _, _, otherLater, otherReached, otherMeant, otherWhole⟩ :=
    exists_effect_of_compile otherCompiled otherSplit otherActive otherClassified
  -- Both compilations come to the place in one state.
  have same : compiler.reaches other origin before = compiler.reaches source origin before :=
    result_run_lines ..
  rw [same, reached] at otherReached
  cases otherReached
  simp only [Compiler.ordinaryTag, kind, Except.ok.injEq] at meant
  simp only [Compiler.ordinaryTag, otherKind, Except.ok.injEq] at otherMeant
  subst meant otherMeant
  have bareSource := source_loopHeader_path identifier path collection state.loops.length
  have sigiledSource :=
    source_loopHeader_variable_path identifier path otherCollection state.loops.length
  have congruent := loopHeader_congr bindings (state.loops.length + 1)
  rw [bareSource] at congruent
  refine ⟨state, written, _, _, later, otherLater, reached, same.trans reached,
    openers_of_reaches reached, whole, otherWhole, congruent, sigiledSource, ?_⟩
  rw [← path_eq_iff path state.loops.length]
  constructor
  · intro headers
    rw [headers, sigiledSource] at bareSource
    simpa using bareSource.symm
  · intro paths
    rw [congruent, paths, ← sigiledSource]

/-- In a loop, `value.items` is not what `$value.items` is. -/
theorem compile_loopSources_value :
    let compiler : Compiler := ⟨{}, .empty⟩
    let source :=
      "\x7bloop=\"$xs\"\x7d\x7bloop=\"value.items\" as $k => $v\x7d\x7b/loop\x7d\x7b/loop\x7d".toList
    let other :=
      "\x7bloop=\"$xs\"\x7d\x7bloop=\"$value.items\" as $k => $v\x7d\x7b/loop\x7d\x7b/loop\x7d".toList
    let program (collection : List Char) : Program :=
      ⟨[.loopOpen ⟨1, .direct "$xs".toList, "$key1".toList, "$value1".toList⟩,
        .loopOpen ⟨2, .direct collection, "$k".toList, "$v".toList⟩, .loopClose, .loopClose]⟩
    let before := (compiler.tokens source).take 1
    let names : Option (List Char × List Char) := some ("k".toList, "v".toList)
    let name := "value".toList
    let segments : List ChainSegment := [.dotted "items".toList]
    let token : Token := ⟨.candidate, loopTag "value.items".toList names, ⟨12, 32⟩⟩
    let otherToken : Token := ⟨.candidate, loopTag "$value.items".toList names, ⟨12, 33⟩⟩
    (compiler.compile source (.file [] [])).result = .ok (program "$value.items".toList) ∧
    (compiler.compile other (.file [] [])).result = .ok (program "$value1[\"items\"]".toList) ∧
    compiler.tokens source = before ++ token :: (compiler.tokens source).drop 2 ∧
    compiler.tokens other = before ++ otherToken :: (compiler.tokens other).drop 2 ∧
    IsActive compiler.options (regionAt compiler.options .markup before) token ∧
    IsActive compiler.options (regionAt compiler.options .markup before) otherToken ∧
    ∃ state written header otherHeader later otherLater,
      compiler.reaches source (.file [] []) before = .ok (state, written) ∧
      compiler.reaches other (.file [] []) before = .ok (state, written) ∧
      openers .loop (blockTags compiler.options before) =
        closers .loop (blockTags compiler.options before) + state.loops.length ∧
      (program "$value.items".toList).instructions = written ++ .loopOpen header :: later ∧
      (program "$value1[\"items\"]".toList).instructions =
        written ++ .loopOpen otherHeader :: otherLater ∧
      header = { otherHeader with
        source := .direct ('$' :: (name ++ segments.flatMap ChainSegment.written)) } ∧
      otherHeader.source =
        .direct ('$' :: (numbered state.loops.length name ++
          segments.flatMap ChainSegment.canonical)) ∧
      (header = otherHeader ↔
        segments = [] ∧ (state.loops.length = 0 ∨ name ∉ bindingNames)) := by
  intro compiler source other program before names name segments token otherToken
  have compiled : (compiler.compile source (.file [] [])).result =
      .ok (program "$value.items".toList) := by
    decide +kernel
  have otherCompiled : (compiler.compile other (.file [] [])).result =
      .ok (program "$value1[\"items\"]".toList) := by
    decide +kernel
  have split : compiler.tokens source = before ++ token :: (compiler.tokens source).drop 2 := by
    decide +kernel
  have otherSplit : compiler.tokens other =
      before ++ otherToken :: (compiler.tokens other).drop 2 := by
    decide +kernel
  have active : IsActive compiler.options (regionAt compiler.options .markup before) token := by
    decide +kernel
  have otherActive : IsActive compiler.options (regionAt compiler.options .markup before)
      otherToken := by
    decide +kernel
  have named : ∀ key value, names = some (key, value) → IsIdentifier key ∧ IsIdentifier value := by
    intro key value written
    obtain ⟨rfl, rfl⟩ : "k".toList = key ∧ "v".toList = value := by simpa [names] using written
    decide
  have classified : classify? compiler.options.caseInsensitiveTags token.text =
      some ⟨.loopOpen, [], loopSegments "value.items".toList names⟩ :=
    classify?_loopTag (by decide) (by decide) named
  have otherClassified : classify? compiler.options.caseInsensitiveTags otherToken.text =
      some ⟨.loopOpen, [], loopSegments "$value.items".toList names⟩ :=
    classify?_loopTag (by decide) (by decide) named
  exact ⟨compiled, otherCompiled, split, otherSplit, active, otherActive,
    compile_loopSources _ _ _ _ _ _ compiled otherCompiled _ _ _ _ _ _ _ split otherSplit active
      otherActive classified otherClassified rfl rfl name segments (by decide) (by decide)
      (by decide) (by decide) (by decide)⟩

end Stencil.Program
