import Stencil.Command.Environment
import Stencil.Proofs.Outputs
import Stencil.Proofs.SideBySide

/-! # What custom tags change

Custom tags are asked about the candidates that no built-in kind recognises, and
about nothing else.  A registry therefore only puts its tags in the place of some
texts of a program, and leaves all other instructions and every error as they are.

* `CustomTag.MatchesIn` — the tags that have a say about a text;
* `CustomTag.Fills` — the shape of what their patterns capture;
* `Extended` — what a registry makes of what is written for a token;
* `compile_extended` — a compilation with a registry beside the one without.
-/

namespace Stencil

namespace Tag

/-- The pattern of the tag matches somewhere in the text. -/
def CustomTag.MatchesIn (tag : CustomTag) (text : List Char) : Prop :=
  tag.pattern.isMatch text = true

instance (tag : CustomTag) (text : List Char) : Decidable (tag.MatchesIn text) :=
  inferInstanceAs (Decidable (_ = true))

/-- Captures have the groups of the tag's pattern in order, and a value in each group
    for every match. -/
structure CustomTag.Fills (tag : CustomTag) (found : TagMatches) : Prop where
  names : found.groups.map CaptureGroup.name = tag.pattern.groups
  values : ∃ count, 0 < count ∧ ∀ group ∈ found.groups, group.values.length = count

variable {tag : CustomTag} {text : List Char} {found : TagMatches} {registry : Registry}
  {name : List Char}

theorem isSome_collect?_iff :
    (TagMatches.collect? tag.pattern text).isSome = true ↔ tag.MatchesIn text := by
  unfold CustomTag.MatchesIn TagMatches.collect?
  have none := tag.pattern.captures_eq_nil_iff text
  cases matched : tag.pattern.captures text with
  | nil => simp [none.1 matched]
  | cons one others =>
    have some : tag.pattern.isMatch text ≠ false := fun absent => by
      rw [none.2 absent] at matched
      cases matched
    simpa using some

theorem fills_of_collect? (collected : TagMatches.collect? tag.pattern text = some found) :
    tag.Fills found := by
  unfold TagMatches.collect? at collected
  dsimp only at collected
  split at collected
  · cases collected
  · rename_i matched
    cases collected
    constructor
    · simp [Function.comp_def]
    · refine ⟨(tag.pattern.captures text).length, ?_, ?_⟩
      · exact List.length_pos_iff.2 fun none => matched (by simp [none])
      · intro group listed
        obtain ⟨_, -, rfl⟩ := List.mem_map.1 listed
        simp

theorem isSome_invoke? (registered : tag ∈ registry.tags) :
    (registry.invoke? tag.name found).isSome = true := by
  simp only [Registry.invoke?, Option.isSome_map, List.find?_isSome]
  exact ⟨tag, registered, by simp⟩

theorem matching_forall₂ (registry : Registry) (text : List Char) :
    List.Forall₂
      (fun tag matched => TagMatches.collect? tag.pattern text = some matched.2 ∧ matched.1 = tag.name)
      (registry.tags.filter fun tag => tag.MatchesIn text) (registry.matching text) := by
  unfold Registry.matching
  induction registry.tags with
  | nil => exact .nil
  | cons tag tags ih =>
    have matches? := @isSome_collect?_iff tag text
    rw [List.filterMap_cons, List.filter_cons]
    cases collected : TagMatches.collect? tag.pattern text with
    | none =>
      have other : ¬ tag.MatchesIn text := fun here => by
        have some := matches?.2 here
        rw [collected] at some
        cases some
      simpa [other] using ih
    | some found =>
      have here : tag.MatchesIn text := matches?.1 (by simp [collected])
      simp only [here, decide_true, if_true, Option.map_some]
      exact .cons ⟨collected, rfl⟩ ih

end Tag

/-! ## Programs -/

namespace Program

open Stencil.Source (LineIndex)
open Stencil.Tag
open Stencil.Template

/-- What a registry makes of what is written for a token without custom tags. -/
inductive Extended (options : CompileOptions) (registry : Registry) (region : Region)
    (token : Token) : List Instruction → List Instruction → Prop where
  | claimed {written : List Instruction} (claimed : ¬ Unclaimed options region token) :
      Extended options registry region token written written
  | text (unclaimed : Unclaimed options region token)
      (none : ∀ tag ∈ registry.tags, ¬ tag.MatchesIn token.text) :
      Extended options registry region token [.text token.text] [.text token.text]
  /-- One instruction for each tag that matches, in the order of registration. -/
  | tags {written : List Instruction} (unclaimed : Unclaimed options region token)
      (some : ∃ tag ∈ registry.tags, tag.MatchesIn token.text)
      (matched : List.Forall₂
        (fun tag instruction => ∃ found, TagMatches.collect? tag.pattern token.text = .some found ∧
          instruction = .customTag tag.name found)
        (registry.tags.filter fun tag => tag.MatchesIn token.text) written) :
      Extended options registry region token [.text token.text] written

variable {options : CompileOptions} {registry : Registry} {origin : Origin} {lines : LineIndex}
  {state final : State} {token : Token} {tokens : List Token} {effect : Effect}
  {instructions : List Instruction} {name : List Char} {found : TagMatches}

theorem extended_customTags (unclaimed : Unclaimed options state.region token) :
    Extended options registry state.region token
      (Compiler.customTags ⟨options, .empty⟩ token.text)
      (Compiler.customTags ⟨options, registry⟩ token.text) := by
  have pairs := matching_forall₂ registry token.text
  have plain : Compiler.customTags ⟨options, .empty⟩ token.text = [.text token.text] := rfl
  rw [plain, Compiler.customTags]
  dsimp only
  generalize registry.matching token.text = matching at pairs
  cases matching with
  | nil =>
    -- What is left of the tags by the filter is as long as what matches.
    have none := List.forall₂_nil_right_iff.1 pairs
    exact .text unclaimed fun tag listed here => List.not_mem_nil
      (none ▸ List.mem_filter.2 ⟨listed, decide_eq_true here⟩)
  | cons first others =>
    obtain ⟨tag, tags, -, -, tagged⟩ := List.forall₂_cons_right_iff.1 pairs
    have listed : tag ∈ registry.tags.filter fun tag => tag.MatchesIn token.text := by simp [tagged]
    refine .tags unclaimed ⟨tag, ?_⟩ ?_
    · simpa using List.mem_filter.1 listed
    · rw [List.forall₂_map_right_iff]
      exact pairs.imp fun tag matched fits => ⟨matched.2, fits.1, by rw [fits.2]⟩

theorem step_extended (lines : LineIndex) (state : State) (token : Token) :
    Alike (· = ·) (Abreast (Extended options registry state.region token))
      (Compiler.step ⟨options, .empty⟩ origin lines state token)
      (Compiler.step ⟨options, registry⟩ origin lines state token) := by
  refine step_alike (Extended options registry) (.refl options) (fun claimed _ _ => .claimed claimed)
    extended_customTags fun found claimed => ?_
  -- No ordinary tag asks the registry.
  change Alike _ _ _ (Compiler.ordinaryTag ⟨options, .empty⟩ origin lines state token.span found)
  cases Compiler.ordinaryTag ⟨options, .empty⟩ origin lines state token.span found with
  | error error => exact .error rfl
  | ok effect => exact .ok ⟨rfl, .claimed claimed⟩

theorem customTag_of_step
    (stepped : Compiler.step ⟨options, registry⟩ origin lines state token = .ok effect)
    (written : .customTag name found ∈ effect.instructions) :
    ∃ tag ∈ registry.tags, tag.name = name ∧ tag.Fills found := by
  have outcome := step_outcome ⟨options, registry⟩ origin lines state token
  rw [stepped] at outcome
  -- No built-in kind and no region writes a custom tag, so only the last case remains.
  cases outcome with
  | comment => cases written
  | literal =>
    dsimp only at written
    split at written <;> simp at written
  | settled _ settled => cases isBare_of_settled settled _ written
  | @tag found _ kind left classified =>
    rw [step_of_active ((isActive_iff kind).2 left) classified] at stepped
    have effects := ordinaryTag_effect stepped
    generalize effect.state = next, effect.instructions = written' at effects written
    cases effects <;> simp at written
  | custom =>
    simp only [Compiler.customTags] at written
    split at written
    · simp at written
    · obtain ⟨⟨other, matched⟩, listed, same⟩ := List.mem_map.1 written
      cases same
      obtain ⟨tag, registered, collected⟩ := List.mem_filterMap.1 listed
      obtain ⟨_, collected, same⟩ := Option.map_eq_some_iff.1 collected
      cases same
      exact ⟨tag, registered, rfl, fills_of_collect? collected⟩

theorem customTag_of_run
    (ran : (Compiler.run ⟨options, registry⟩ origin lines state tokens).result =
      .ok (final, instructions))
    (written : .customTag name found ∈ instructions) :
    ∃ tag ∈ registry.tags, tag.name = name ∧ tag.Fills found := by
  obtain ⟨_, _, _, stepped, here⟩ := exists_step_of_run ran written
  exact customTag_of_step stepped here

/-- With a registry a template is rejected with the same error as without it, or it is compiled
    to the same program, in which the tags that match stand in the place of unclaimed texts.
    What they captured has the shape of their patterns, and they can be invoked. -/
theorem compile_extended (options : CompileOptions) (registry : Registry) (source : List Char)
    (origin : Origin) :
    Alike (· = ·)
        (fun plain program : Program =>
          Paired ⟨options, .empty⟩ origin (LineIndex.ofText (normalizeLineEndings source))
            (Extended options registry) {} (Compiler.tokens ⟨options, .empty⟩ source)
            plain.instructions program.instructions)
        (Compiler.compile ⟨options, .empty⟩ source origin).result
        (Compiler.compile ⟨options, registry⟩ source origin).result ∧
      ∀ program, (Compiler.compile ⟨options, registry⟩ source origin).result = .ok program →
        ∀ name found, .customTag name found ∈ program.instructions →
          (∃ tag ∈ registry.tags, tag.name = name ∧ tag.Fills found) ∧
            (registry.invoke? name found).isSome = true := by
  refine ⟨compile_alike _ (.refl options) source (fun _ _ => rfl) step_extended, ?_⟩
  intro program compiled name found written
  obtain ⟨final, ran, -⟩ := compile_ok_iff.1 compiled
  obtain ⟨tag, registered, rfl, fills⟩ := customTag_of_run ran written
  exact ⟨⟨tag, registered, rfl, fills⟩, isSome_invoke? registered⟩

/-- A tag that matches twice in an unclaimed candidate does not match in a noparse region, nor
    in a variable. -/
theorem compile_extended_twice :
    let registry : Registry :=
      ⟨((Pattern.Engine.compile "([a-z])(\\d)?".toList).toOption.map fun pattern =>
        ⟨"pair".toList, pattern, fun _ => []⟩).toList⟩
    let source := "\x7ba1b\x7d\x7bnoparse\x7d\x7ba\x7d\x7b/noparse\x7d\x7b$a\x7d".toList
    let found : TagMatches :=
      ⟨[⟨none, ["a1".toList, "b".toList]⟩, ⟨none, ["a".toList, "b".toList]⟩,
        ⟨none, ["1".toList, []]⟩]⟩
    let rest : List Instruction := [.text "\x7ba\x7d".toList, .output (.code "$a".toList)]
    let plain : Program := ⟨.text "\x7ba1b\x7d".toList :: rest⟩
    let program : Program := ⟨.customTag "pair".toList found :: rest⟩
    (Compiler.compile ⟨{}, .empty⟩ source (.file [] [])).result = .ok plain ∧
    (Compiler.compile ⟨{}, registry⟩ source (.file [] [])).result = .ok program ∧
    Paired ⟨{}, .empty⟩ (.file [] []) (LineIndex.ofText (normalizeLineEndings source))
      (Extended {} registry) {} (Compiler.tokens ⟨{}, .empty⟩ source)
      plain.instructions program.instructions ∧
    (∃ tag ∈ registry.tags, tag.name = "pair".toList ∧ tag.Fills found) ∧
    (registry.invoke? "pair".toList found).isSome = true := by
  intro registry source found rest plain program
  have compiledPlain :
      (Compiler.compile ⟨{}, .empty⟩ source (.file [] [])).result = .ok plain := by
    decide +kernel
  have compiled : (Compiler.compile ⟨{}, registry⟩ source (.file [] [])).result = .ok program := by
    decide +kernel
  obtain ⟨alike, customTags⟩ := compile_extended {} registry source (.file [] [])
  rw [compiledPlain, compiled] at alike
  cases alike with
  | ok paired =>
    exact ⟨compiledPlain, compiled, paired, customTags program compiled _ _ List.mem_cons_self⟩

end Program

end Stencil
