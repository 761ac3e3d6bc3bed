import Stencil.Proofs.Steps

/-! # Regions and active candidates

A region goes on up to the first candidate that ends it, whatever stands in
between.  Outside regions a candidate is *active* unless it is the end of one;
only active candidates are looked at as tags.

* `IsActive` / `activeFrom` — the candidates that are looked at;
* `regionAfter` — the region from token to token, and `step_region`, by which
  the compiler follows it;
* `permitted_step` — raw code is entered only where it is allowed.
-/

namespace Stencil.Program

open Stencil.Source (LineIndex)
open Stencil.Tag
open Stencil.Template

/-! ## From token to token -/

instance (options : CompileOptions) (text : List Char) : Decidable (ClosesRegion options text) :=
  inferInstanceAs (Decidable (_ ∨ _ ∨ _))

/-- A candidate that is reached outside regions and is not the end of one. -/
def IsActive (options : CompileOptions) (region : Region) (token : Token) : Prop :=
  token.kind = .candidate ∧ region = .markup ∧ ¬ ClosesRegion options token.text

instance (options : CompileOptions) (region : Region) (token : Token) :
    Decidable (IsActive options region token) :=
  inferInstanceAs (Decidable (_ ∧ _ ∧ _))

/-- The region after a token. -/
def regionAfter (options : CompileOptions) (region : Region) (token : Token) : Region :=
  if IsActive options region token then
    ((classify? options.caseInsensitiveTags token.text).bind
      (opensRegion? options ·.kind)).getD .markup
  else if token.kind = .candidate ∧ endsRegion options region token.text then .markup
  else region

/-- The active candidates among tokens that are reached in a region. -/
def activeFrom (options : CompileOptions) (region : Region) : List Token → List Token
  | [] => []
  | token :: tokens =>
    let later := activeFrom options (regionAfter options region token) tokens
    if IsActive options region token then token :: later else later

theorem mem_of_mem_activeFrom {options : CompileOptions} {region : Region} {tokens : List Token}
    {token : Token} (active : token ∈ activeFrom options region tokens) :
    token ∈ tokens ∧ token.kind = .candidate := by
  induction tokens generalizing region with
  | nil => cases active
  | cons first tokens ih =>
    simp only [activeFrom] at active
    split at active
    · rename_i isActive
      rcases List.mem_cons.1 active with rfl | later
      · exact ⟨.head _, isActive.1⟩
      · exact (ih later).imp (.tail _) id
    · exact (ih active).imp (.tail _) id

/-- What is made of the active candidates, from token to token. -/
theorem filterMap_activeFrom_cons {α : Type} (f : Token → Option α) (options : CompileOptions)
    (region : Region) (token : Token) (tokens : List Token) :
    (activeFrom options region (token :: tokens)).filterMap f =
      (if IsActive options region token then f token else none).toList ++
        (activeFrom options (regionAfter options region token) tokens).filterMap f := by
  rw [activeFrom]
  split
  · rw [List.filterMap_cons]
    cases f token <;> rfl
  · rfl

/-- The region after tokens. -/
def regionAt (options : CompileOptions) (region : Region) (tokens : List Token) : Region :=
  tokens.foldl (regionAfter options) region

theorem activeFrom_append (options : CompileOptions) (region : Region) (left right : List Token) :
    activeFrom options region (left ++ right) =
      activeFrom options region left ++ activeFrom options (regionAt options region left) right := by
  induction left generalizing region with
  | nil => rfl
  | cons token left ih =>
    simp only [List.cons_append, activeFrom, ih]
    split <;> rfl

/-! ## The compiler's regions -/

theorem isActive_iff {options : CompileOptions} {region : Region} {token : Token}
    (kind : token.kind = .candidate) :
    IsActive options region token ↔ settleRegion? options region token.text = none := by
  simp [IsActive, kind, settleRegion?_eq_none_iff]

/-- A tag begins the region of its kind, or none. -/
theorem TagOutcome.region {options : CompileOptions} {origin : Origin} {state : State}
    {span : Source.Span} {found : TagMatch} {effect : Effect} (markup : state.region = .markup)
    (outcome : TagOutcome options origin state span found (.ok effect)) :
    effect.state.region = (opensRegion? options found.kind).getD .markup := by
  cases outcome with
  | opensRegion opens => simp [opens]
  | opensLoop kind => simp [kind, opensRegion?, markup]
  | opensIf kind => simp [kind, opensRegion?, markup]
  | closes kind => simp [opensRegion?_of_closesBlock? kind, markup]
  | escapes kind => rcases kind with kind | kind <;> simp [kind, opensRegion?, markup]
  | writes begins => simp [begins, markup]

/-- The compiler follows the regions. -/
theorem step_region {compiler : Compiler} {origin : Origin} {lines : LineIndex} {state : State}
    {token : Token} {effect : Effect}
    (permitted : Permitted compiler.options state.region)
    (stepped : compiler.step origin lines state token = .ok effect) :
    effect.state.region = regionAfter compiler.options state.region token := by
  have outcome := step_outcome compiler origin lines state token
  rw [stepped] at outcome
  unfold regionAfter
  cases outcome with
  | comment kind => simp [IsActive, kind]
  | literal kind => simp [IsActive, kind]
  | settled kind settled =>
    rw [if_neg (by simp [isActive_iff kind, settled])]
    simp [kind, region_of_settled permitted settled]
  | tag kind left classified outcome =>
    rw [if_pos ((isActive_iff kind).2 left), classified]
    exact outcome.region (settleRegion?_eq_none_iff.1 left).1
  | custom kind left unclassified =>
    rw [if_pos ((isActive_iff kind).2 left), unclassified]
    exact (settleRegion?_eq_none_iff.1 left).1

/-- An active candidate is what its classification says. -/
theorem step_of_active {compiler : Compiler} {origin : Origin} {lines : LineIndex} {state : State}
    {token : Token} {found : TagMatch} (active : IsActive compiler.options state.region token)
    (classified : classify? compiler.options.caseInsensitiveTags token.text = some found) :
    compiler.step origin lines state token =
      compiler.ordinaryTag origin lines state token.span found := by
  have left := (isActive_iff active.1).1 active
  simp only [Compiler.step, active.1, Compiler.candidate, left, classified]

theorem permitted_regionAfter {options : CompileOptions} {region : Region}
    (permitted : Permitted options region) (token : Token) :
    Permitted options (regionAfter options region token) := by
  intro inside
  unfold regionAfter at inside
  split at inside
  · cases classified : classify? options.caseInsensitiveTags token.text with
    | none => simp [classified] at inside
    | some found =>
      rw [classified] at inside
      cases kind : found.kind <;> simp_all [opensRegion?]
  · split at inside
    · cases inside
    · exact permitted inside

/-- The compiler gets into raw code only where that is allowed. -/
theorem permitted_step {compiler : Compiler} {origin : Origin} {lines : LineIndex} {state : State}
    {token : Token} {effect : Effect} (permitted : Permitted compiler.options state.region)
    (stepped : compiler.step origin lines state token = .ok effect) :
    Permitted compiler.options effect.state.region := by
  rw [step_region permitted stepped]
  exact permitted_regionAfter permitted token

/-- A run follows the regions, too. -/
theorem run_region {compiler : Compiler} {origin : Origin} {lines : LineIndex}
    {state final : State} {tokens : List Token} {instructions : List Instruction}
    (permitted : Permitted compiler.options state.region)
    (ran : (compiler.run origin lines state tokens).result = .ok (final, instructions)) :
    final.region = regionAt compiler.options state.region tokens ∧
      Permitted compiler.options final.region := by
  induction tokens generalizing state instructions with
  | nil =>
    obtain ⟨rfl, -⟩ := run_nil_ok_iff.1 ran
    exact ⟨rfl, permitted⟩
  | cons token tokens ih =>
    obtain ⟨effect, later, stepped, rest, -⟩ := run_cons_ok_iff.1 ran
    rw [regionAt, List.foldl_cons, ← step_region permitted stepped]
    exact ih (permitted_step permitted stepped) rest

/-- In a template that compiles, a tag that is reached does what its kind says. -/
theorem exists_effect_of_compile {compiler : Compiler} {source : List Char} {origin : Origin}
    {program : Program} {before after : List Token} {token : Token} {found : TagMatch}
    (compiled : (compiler.compile source origin).result = .ok program)
    (split : compiler.tokens source = before ++ token :: after)
    (active : IsActive compiler.options (regionAt compiler.options .markup before) token)
    (classified : classify? compiler.options.caseInsensitiveTags token.text = some found) :
    ∃ state written effect later,
      compiler.reaches source origin before = .ok (state, written) ∧
      compiler.ordinaryTag origin (LineIndex.ofText (normalizeLineEndings source)) state token.span
        found = .ok effect ∧
      program.instructions = written ++ (effect.instructions ++ later) := by
  obtain ⟨final, ran, -⟩ := compile_ok_iff.1 compiled
  rw [Compiler.runOver, split] at ran
  obtain ⟨state, written, _, reached, rest, whole⟩ := run_append_ok_iff.1 ran
  obtain ⟨effect, later, stepped, -, rfl⟩ := run_cons_ok_iff.1 rest
  have region := (@run_region _ _ _ {} _ _ _ (permitted_markup _) reached).1
  rw [step_of_active (by rw [region]; exact active) classified] at stepped
  exact ⟨state, written, effect, later, reached, stepped, whole⟩

end Stencil.Program
