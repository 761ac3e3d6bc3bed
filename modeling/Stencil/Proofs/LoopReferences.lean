import Stencil.Proofs.Names
import Stencil.Proofs.Nesting
import Stencil.Proofs.QuotedArguments

/-! # References to what a loop binds

A loop names its key and its value in its header; in its body, variables of these
names refer to them.  The names that are not written are numbered by the depth of
the loop, and a reference to one of them is numbered likewise.

* `classify?_variableTag` and `classify?_loopTag` — how the two tags are read;
* `compile_loopReferences` — which references reach the names in the header.
-/

namespace Stencil.Tag

open Stencil.Expr (IsIdentifier isNameChar_of_isQuote)
open Stencil.Text

variable {ignoreCase : Bool} {collection name : List Char}
  {names? : Option (List Char × List Char)}

/-- The tag that prints the variable of a name. -/
def variableTag (name : List Char) : List Char := '{' :: '$' :: (name ++ ['}'])

/-- The key and the value in the header of a loop, if they are written. -/
def writtenNames : Option (List Char × List Char) → List Char
  | some (key, value) => " as $".toList ++ key ++ " => $".toList ++ value
  | none => []

/-- The tag of a loop over a collection. -/
def loopTag (collection : List Char) (names? : Option (List Char × List Char)) : List Char :=
  ('{' :: TagKind.loopOpen.name ++ "=\"".toList) ++
    (collection ++ '"' :: (writtenNames names? ++ ['}']))

/-- The tag of a loop in its parts. -/
def loopSegments (collection : List Char) (names? : Option (List Char × List Char)) :
    List Segment :=
  .fixed ('{' :: TagKind.loopOpen.name ++ "=\"".toList) :: .argument 1 collection :: .fixed ['"'] ::
    match names? with
    | some (key, value) => [.fixed " as ".toList, .argument 2 ('$' :: key),
        .fixed " => ".toList, .argument 3 ('$' :: value), .fixed ['}']]
    | none => [.fixed ['}']]

/-! ## Variable tags -/

theorem closeOutput?_name (chars : ∀ c ∈ name, isNameChar c = true) :
    closeOutput? none (name ++ ['}']) = some (name ++ ['}']) := by
  induction name with
  | nil => rfl
  | cons c rest ih =>
    have char := chars c (.head _)
    have noBrace : c ≠ '}' := by
      rintro rfl
      cases char
    have noQuote : Template.isQuote c = false := by
      rw [← Bool.not_eq_true]
      intro quoted
      cases (isNameChar_of_isQuote quoted).symm.trans char
    have later := ih fun d inside => chars d (.tail _ inside)
    simp [closeOutput?, noBrace, noQuote, later]

/-- Nothing but a variable is found in the tag of a name. -/
theorem classify?_variableTag (identifier : IsIdentifier name) :
    classify? ignoreCase (variableTag name) =
      some ⟨.variableTag, [], [.fixed (variableTag name)]⟩ := by
  have order : TagKind.ordinary = TagKind.ordinary.take 16 ++ .variableTag :: [.constantTag] := rfl
  have single : '{' ∉ (['{', '$'] ++ (name ++ ['}'])).tail := by
    have outside : '{' ∉ name := identifier.not_mem rfl
    simp [outside]
  refine classify?_of_find? order ?_ (find?_of_recognise? (List.cons_ne_nil _ _) ?_)
  · intro other passed
    by_cases ternary : other = .ternary
    · rw [ternary, find?_eq_none_iff, ternary_occursIn_iff]
      rintro ⟨start, inside, first, more, ifTrue, ifFalse, after, rfl, -⟩
      -- A ternary would bring a question mark along.
      have question : '?' ∈ variableTag name := inside.subset (by simp)
      have outside : '?' ∉ name := identifier.not_mem rfl
      simp [variableTag, outside] at question
    · have apart : ∀ other ∈ TagKind.ordinary.take 16, other ≠ .ternary →
          ∀ opening ∈ other.openings, opening.head? = some '{' ∧
            ¬ opening <+: ['{', '$'] ∧ ¬ ['{', '$'] <+: opening := by decide
      have opening : ['{', '$'] ∈ TagKind.variableTag.openings := .head _
      refine find?_eq_none_of_apart single ?_
      rw [map_letterOf_opening opening]
      exact apart other passed ternary
  · cases name with
    | nil => cases identifier.1
    | cons first rest =>
      have noBrace : first ≠ '}' := by
        rintro rfl
        cases identifier.2 _ (.head _)
      have closes := closeOutput?_name fun c inside => identifier.2 c (.tail first inside)
      simp [variableTag, TagKind.recognise?, output?, noBrace, closes]

theorem withoutBraces_variableTag : Program.withoutBraces (variableTag name) = '$' :: name := by
  have start : stripStart? ['{'] (variableTag name) = some ('$' :: (name ++ ['}'])) := rfl
  have stop : stripEnd? ['}'] ('$' :: (name ++ ['}'])) = some ('$' :: name) := by
    simp [stripEnd?, List.isPrefixOf?]
  rw [Program.withoutBraces, start, Option.bind_some, stop]
  rfl

/-! ## Loop tags -/

/-- The names that a loop binds, if they are written. -/
def boundNames : Option (List Char × List Char) → List (List Char)
  | some (key, value) => [key, value]
  | none => []

theorem writtenNames_eq (names? : Option (List Char × List Char)) :
    writtenNames names? = writtenBindings (boundNames names?) := by
  cases names? with
  | none => rfl
  | some names =>
    rw [boundNames, writtenBindings_cons, List.flatMap_singleton]
    exact List.append_assoc ..

theorem loopTag_eq (collection : List Char) (names? : Option (List Char × List Char)) :
    loopTag collection names? = argumentTag .loopOpen collection (boundNames names?) := by
  rw [loopTag, writtenNames_eq]
  rfl

theorem loopSegments_eq (collection : List Char) (names? : Option (List Char × List Char)) :
    loopSegments collection names? = argumentSegments .loopOpen collection (boundNames names?) := by
  cases names? <;> rfl

/-- No kind that is tried before loops is found in the tag of one. -/
theorem classify?_loopTag (single : '{' ∉ collection) (quoteless : '"' ∉ collection)
    (named : ∀ key value, names? = some (key, value) → IsIdentifier key ∧ IsIdentifier value) :
    classify? ignoreCase (loopTag collection names?) =
      some ⟨.loopOpen, [], loopSegments collection names?⟩ := by
  have listed : TagKind.loopOpen ∈ argumentKinds := by decide
  rw [loopTag_eq, loopSegments_eq]
  cases names? with
  | none => exact classify?_argumentTag listed (by decide) (by simp [boundNames]) quoteless single
  | some names =>
    obtain ⟨keyNamed, valueNamed⟩ := named names.1 names.2 rfl
    exact classify?_argumentTag listed (by simp [boundNames, TagKind.arity])
      (by simpa [boundNames] using ⟨keyNamed, valueNamed⟩) quoteless single

end Stencil.Tag

namespace Stencil.Program

open Stencil.Expr (IsIdentifier Resolved bindingNames numbered resolve)
open Stencil.Source (LineIndex)
open Stencil.Tag
open Stencil.Template
open Stencil.Text

/-- A header has the names that are written, and else the default names of the level. -/
theorem loopHeader_loopSegments (collection : List Char)
    (names? : Option (List Char × List Char)) (level : Nat) :
    let header := loopHeader ⟨.loopOpen, [], loopSegments collection names?⟩ level
    header.level = level ∧
      match names? with
      | some (key, value) => header.key = '$' :: key ∧ header.value = '$' :: value
      | none => header.key = "$key".toList ++ decimal level ∧
          header.value = "$value".toList ++ decimal level := by
  cases names? with
  | none => exact ⟨rfl, rfl, rfl⟩
  | some names => exact ⟨rfl, rfl, rfl⟩

/-! ## Depths -/

section Depths

variable {compiler : Compiler} {source : List Char} {origin : Origin} {state inner : State}
  {before inside : List Token} {opener : Token} {found : TagMatch}
  {written body : List Instruction}

theorem blockTags_append (options : CompileOptions) (left right : List Token) :
    blockTags options (left ++ right) =
      blockTags options left ++ blockTagsFrom options (regionAt options .markup left) right := by
  rw [blockTags, blockTagsFrom, activeFrom_append, List.filterMap_append]
  rfl

theorem openers_append (block : Block) (left right : List BlockTag) :
    openers block (left ++ right) = openers block left + openers block right :=
  List.countP_append

theorem closers_append (block : Block) (left right : List BlockTag) :
    closers block (left ++ right) = closers block left + closers block right :=
  List.countP_append

/-- The loops that are open in a state are the loop tags that are not closed before it. -/
theorem openers_of_reaches
    (reached : compiler.reaches source origin before = .ok (state, written)) :
    openers .loop (blockTags compiler.options before) =
      closers .loop (blockTags compiler.options before) + state.loops.length := by
  have clean : NoStray [] := by simp [NoStray]
  have nothing : Tracks [] {} := fun block => by cases block <;> rfl
  have follows := @run_follows compiler origin
    (Source.LineIndex.ofText (normalizeLineEndings source)) {} [] before clean nothing
    (permitted_markup _)
  have ran : (compiler.run origin (Source.LineIndex.ofText (normalizeLineEndings source)) {}
    before).result = .ok (state, written) := reached
  rw [ran] at follows
  cases follows with
  | finishes clean tracks =>
    have loops : state.loops = _ := tracks .loop
    rw [loops, List.length_map]
    exact clean.openers_eq .loop

/-- Directly in the body of a loop one more loop is open than before it. -/
theorem length_loops_body
    (reached : compiler.reaches source origin before = .ok (state, written))
    (reachedBody : compiler.reaches source origin (before ++ opener :: inside) = .ok (inner, body))
    (opens : IsActive compiler.options (regionAt compiler.options .markup before) opener)
    (classified : classify? compiler.options.caseInsensitiveTags opener.text = some found)
    (kind : found.kind = .loopOpen)
    (directly : Balanced .loop (blockTagsFrom compiler.options .markup inside)) :
    inner.loops.length = state.loops.length + 1 := by
  have behind : regionAfter compiler.options (regionAt compiler.options .markup before) opener =
      .markup := by
    simp [regionAfter, opens, classified, kind, opensRegion?]
  have tag : reached? compiler.options (regionAt compiler.options .markup before) opener =
      some ⟨.loop, true, opener⟩ := reached?_of_opensBlock? opens classified (by rw [kind]; rfl)
  have outer := openers_of_reaches reached
  have whole := openers_of_reaches reachedBody
  rw [blockTags_append, blockTagsFrom_cons, tag, behind] at whole
  have closed : closers .loop (blockTagsFrom compiler.options .markup inside) =
    openers .loop (blockTagsFrom compiler.options .markup inside) := directly.2
  simp only [openers_append, closers_append, Option.toList_some, List.singleton_append,
    openers_cons, closers_cons, true_and, reduceCtorEq, and_false, if_true, if_false] at whole
  omega

end Depths

/-! ## References -/

/-- How a reference to a name in the body of a loop, which becomes the code, stands to
    the header of the loop and the names that are written in its tag. -/
structure LoopReference (names? : Option (List Char × List Char)) (name : List Char)
    (header : Loop) (code : List Char) : Prop where
  code_eq : code = '$' :: numbered header.level name
  /-- The header has the names as they are written. -/
  written : ∀ key value, names? = some (key, value) →
    header.key = '$' :: key ∧ header.value = '$' :: value
  /-- A reference to the key reaches it unless its name is numbered. -/
  key : ∀ value, names? = some (name, value) → (code = header.key ↔ name ∉ bindingNames)
  /-- So does a reference to the value. -/
  value : ∀ key, names? = some (key, name) → (code = header.value ↔ name ∉ bindingNames)
  /-- The default names are always reached. -/
  defaultNames : names? = none → (name = "key".toList → code = header.key) ∧
    (name = "value".toList → code = header.value) ∧ (name = "counter".toList → code = header.counter)

theorem numbered_eq_self_iff {level : Nat} {name : List Char} (inside : level ≠ 0) :
    numbered level name = name ↔ name ∉ bindingNames := by
  have filled : decimal level ≠ [] := Nat.toDigits_ne_nil
  by_cases listed : name ∈ bindingNames
  · simp [numbered, listed, inside, filled]
  · simp [numbered, listed]

/-- Every loop names its header by its level, and references in its body by the same. -/
theorem loopReference_loopHeader (collection name : List Char)
    (names? : Option (List Char × List Char)) (level : Nat) :
    LoopReference names? name (loopHeader ⟨.loopOpen, [], loopSegments collection names?⟩ (level + 1))
      ('$' :: numbered (level + 1) name) := by
  obtain ⟨levels, names⟩ := loopHeader_loopSegments collection names? (level + 1)
  generalize loopHeader ⟨.loopOpen, [], loopSegments collection names?⟩ (level + 1) = header at *
  have inside : header.level ≠ 0 := by omega
  rw [← levels] at names ⊢
  constructor
  case code_eq => rfl
  case written =>
    rintro key value rfl
    exact names
  case key =>
    rintro value rfl
    rw [names.1, List.cons.injEq, numbered_eq_self_iff inside]
    exact and_iff_right rfl
  case value =>
    rintro key rfl
    rw [names.2, List.cons.injEq, numbered_eq_self_iff inside]
    exact and_iff_right rfl
  case defaultNames =>
    rintro rfl
    obtain ⟨key, value⟩ := names
    have isNumbered {name : List Char} (listed : name ∈ bindingNames) :
        numbered header.level name = name ++ decimal header.level := if_pos ⟨listed, inside⟩
    refine ⟨?_, ?_, ?_⟩
    · rintro rfl
      rw [isNumbered (by decide), key]
      rfl
    · rintro rfl
      rw [isNumbered (by decide), value]
      rfl
    · rintro rfl
      rw [isNumbered (by decide)]
      rfl

/-- A loop tag opens a loop and writes its header. -/
theorem step_loopTag {compiler : Compiler} {origin : Origin} {lines : LineIndex} {state : State}
    {opener : Token} {collection : List Char} {names? : Option (List Char × List Char)}
    (opens : IsActive compiler.options state.region opener)
    (openerText : opener.text = loopTag collection names?)
    (single : '{' ∉ collection) (quoteless : '"' ∉ collection)
    (named : ∀ key value, names? = some (key, value) → IsIdentifier key ∧ IsIdentifier value) :
    compiler.step origin lines state opener =
      .ok { state := { state with loops := opener.span :: state.loops }
            instructions := [.loopOpen (loopHeader ⟨.loopOpen, [], loopSegments collection names?⟩
              (state.loops.length + 1))] } := by
  have classified : classify? compiler.options.caseInsensitiveTags opener.text =
      some ⟨.loopOpen, [], loopSegments collection names?⟩ := by
    rw [openerText]
    exact classify?_loopTag single quoteless named
  rw [step_of_active opens classified]
  rfl

/-- The tag of a name prints its variable. -/
theorem step_variableTag {compiler : Compiler} (origin : Origin) (lines : LineIndex)
    {state : State} {tag : Token} {name : List Char}
    (active : IsActive compiler.options state.region tag) (tagText : tag.text = variableTag name)
    (identifier : IsIdentifier name) :
    ∃ expr, compiler.step origin lines state tag =
        .ok { state, instructions := [.output expr] } ∧
      (expr = .code ('$' :: numbered state.loops.length name) ∨
        expr = .escape (.code ('$' :: numbered state.loops.length name))
          compiler.options.charset) := by
  have classified : classify? compiler.options.caseInsensitiveTags tag.text =
      some ⟨.variableTag, [], [.fixed (variableTag name)]⟩ := by
    rw [tagText]
    exact classify?_variableTag identifier
  have content : withoutBraces (TagMatch.whole ⟨.variableTag, [], [.fixed (variableTag name)]⟩) =
      '$' :: name := by
    simp [TagMatch.whole, Segment.text, withoutBraces_variableTag]
  rw [step_of_active active classified]
  refine ⟨(resolve ('$' :: name) state.loops.length (compiler.charset? state)).expr, ?_, ?_⟩
  · simp [Compiler.ordinaryTag, content, Expr.resolve_variable identifier, Resolved.isOutput]
  · rw [Expr.resolve_variable identifier]
    unfold Compiler.charset?
    by_cases escaping : state.escapes.head?.getD compiler.options.autoEscape = true
    · simp [escaping]
    · simp [escaping]

/-- In the body of a loop, a reference to the key or the value that its tag names
    reaches the name in the header exactly when the name is none of `key`, `value` and
    `counter`: the header has the name as it is written, but references to these three
    are numbered by the depth.  Where the tag names nothing, the header is numbered
    likewise, and they reach the key, the value and the counter. -/
theorem compile_loopReferences (compiler : Compiler) (source : List Char) (origin : Origin)
    (program : Program) (compiled : (compiler.compile source origin).result = .ok program)
    (before inside after : List Token) (opener tag : Token)
    (split : compiler.tokens source = before ++ opener :: (inside ++ tag :: after))
    (collection name : List Char) (names? : Option (List Char × List Char))
    (single : '{' ∉ collection) (quoteless : '"' ∉ collection)
    (named : ∀ key value, names? = some (key, value) → IsIdentifier key ∧ IsIdentifier value)
    (identifier : IsIdentifier name)
    (openerText : opener.text = loopTag collection names?) (tagText : tag.text = variableTag name)
    (opens : IsActive compiler.options (regionAt compiler.options .markup before) opener)
    (active : IsActive compiler.options
      (regionAt compiler.options .markup (before ++ opener :: inside)) tag)
    (directly : Balanced .loop (blockTagsFrom compiler.options .markup inside)) :
    ∃ state bodyState written body header expr later,
      compiler.reaches source origin before = .ok (state, written) ∧
      compiler.reaches source origin (before ++ opener :: inside) =
        .ok (bodyState, written ++ .loopOpen header :: body) ∧
      program.instructions = written ++ .loopOpen header :: (body ++ .output expr :: later) ∧
      header.level = state.loops.length + 1 ∧
      ∃ code, (expr = .code code ∨ expr = .escape (.code code) compiler.options.charset) ∧
        LoopReference names? name header code := by
  obtain ⟨final, ran, -⟩ := compile_ok_iff.1 compiled
  unfold Compiler.runOver at ran
  rw [split] at ran
  obtain ⟨state, written, _, reached, fromOpener, whole⟩ := run_append_ok_iff.1 ran
  obtain ⟨effect, _, opened, fromBody, rfl⟩ := run_cons_ok_iff.1 fromOpener
  obtain ⟨bodyState, body, _, ranBody, fromTag, rfl⟩ := run_append_ok_iff.1 fromBody
  obtain ⟨printed, later, stepped, -, rfl⟩ := run_cons_ok_iff.1 fromTag
  have reachedBody : compiler.reaches source origin (before ++ opener :: inside) =
      .ok (bodyState, written ++ (effect.instructions ++ body)) :=
    run_append_ok_iff.2 ⟨state, written, _, reached,
      run_cons_ok_iff.2 ⟨effect, body, opened, ranBody, rfl⟩, rfl⟩
  have region := (@run_region _ _ _ {} _ _ _ (permitted_markup _) reached).1
  have bodyRegion := (@run_region _ _ _ {} _ _ _ (permitted_markup _) reachedBody).1
  -- The opening tag writes the header, and the other one prints one loop deeper.
  rw [step_loopTag (by rw [region]; exact opens) openerText single quoteless named] at opened
  cases opened
  have openerClass : classify? compiler.options.caseInsensitiveTags opener.text =
      some ⟨.loopOpen, [], loopSegments collection names?⟩ := by
    rw [openerText]
    exact classify?_loopTag single quoteless named
  have depth := length_loops_body reached reachedBody opens openerClass rfl directly
  obtain ⟨expr, outputs, prints⟩ := step_variableTag origin
    (LineIndex.ofText (normalizeLineEndings source)) (by rw [bodyRegion]; exact active) tagText
    identifier
  rw [outputs] at stepped
  cases stepped
  rw [depth] at prints
  exact ⟨state, bodyState, written, body, _, expr, later, reached, reachedBody, whole, rfl,
    _, prints, loopReference_loopHeader collection name names? state.loops.length⟩

/-- A loop that calls its key `key` has it as `$key` in its header, but `$key1` in its
    body. -/
theorem compile_loopReferences_key :
    let compiler : Compiler := ⟨{}, .empty⟩
    let names : Option (List Char × List Char) := some ("key".toList, "value".toList)
    let opener : Token := ⟨.candidate, loopTag "$xs".toList names, ⟨0, 30⟩⟩
    let tag : Token := ⟨.candidate, variableTag "key".toList, ⟨30, 6⟩⟩
    let closer : Token := ⟨.candidate, "\x7b/loop\x7d".toList, ⟨36, 7⟩⟩
    let source := "\x7bloop=\"$xs\" as $key => $value\x7d\x7b$key\x7d\x7b/loop\x7d".toList
    let program : Program := ⟨[.loopOpen ⟨1, .direct "$xs".toList, "$key".toList, "$value".toList⟩,
      .output (.code "$key1".toList), .loopClose]⟩
    (compiler.compile source (.file [] [])).result = .ok program ∧
    compiler.tokens source = [] ++ opener :: ([] ++ tag :: [closer]) ∧
    IsActive compiler.options (regionAt compiler.options .markup []) opener ∧
    IsActive compiler.options (regionAt compiler.options .markup ([] ++ opener :: [])) tag ∧
    Balanced .loop (blockTagsFrom compiler.options .markup []) ∧
    ∃ state bodyState written body header expr later,
      compiler.reaches source (.file [] []) [] = .ok (state, written) ∧
      compiler.reaches source (.file [] []) ([] ++ opener :: []) =
        .ok (bodyState, written ++ .loopOpen header :: body) ∧
      program.instructions = written ++ .loopOpen header :: (body ++ .output expr :: later) ∧
      header.level = state.loops.length + 1 ∧
      ∃ code, (expr = .code code ∨ expr = .escape (.code code) compiler.options.charset) ∧
        LoopReference names "key".toList header code := by
  intro compiler names opener tag closer source program
  have compiled : (compiler.compile source (.file [] [])).result = .ok program := by
    decide +kernel
  have split : compiler.tokens source = [] ++ opener :: ([] ++ tag :: [closer]) := by
    decide +kernel
  have opens : IsActive compiler.options (regionAt compiler.options .markup []) opener := by
    decide +kernel
  have active : IsActive compiler.options
      (regionAt compiler.options .markup ([] ++ opener :: [])) tag := by
    decide +kernel
  have directly : Balanced .loop (blockTagsFrom compiler.options .markup []) :=
    ⟨fun before front => by simp [List.prefix_nil.1 front, closers], rfl⟩
  have named : ∀ key value, names = some (key, value) →
      IsIdentifier key ∧ IsIdentifier value := by
    intro key value written
    obtain ⟨rfl, rfl⟩ : "key".toList = key ∧ "value".toList = value := by
      simpa [names] using written
    decide
  exact ⟨compiled, split, opens, active, directly,
    compile_loopReferences _ _ _ _ compiled _ _ _ _ _ split _ _ _ (by decide) (by decide) named
      (by decide) rfl rfl opens active directly⟩

end Stencil.Program
