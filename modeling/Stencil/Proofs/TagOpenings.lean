import Mathlib.Data.List.Infix
import Stencil.Proofs.Shapes
import Stencil.Proofs.Steps

/-! # How tags begin

Each kind of tag has a few texts, one of which every tag of the kind begins with.
Where none of them stands no tag of the kind is found.  Some kinds have no
arguments: their tags are these texts and nothing else.

* `TagKind.openings` — the texts that tags of a kind begin with;
* `fixedKinds` — the kinds whose tags are fixed texts;
* `opening_of_find?` — a tag is found behind one of its openings;
* `occursIn_iff_opening` — a fixed text is found wherever it stands;
* `ternary_occursIn_iff` — what a ternary is found by.
-/

namespace Stencil.Tag

open Stencil.Text

variable {ignoreCase : Bool} {kind : TagKind} {text opening : List Char}
  {segments : List Segment}

/-- The texts that tags of a kind begin with, in lower case. -/
def TagKind.openings : TagKind → List (List Char)
  | .ignoreClose => ["\x7b/ignore\x7d".toList, "*\x7d".toList]
  | .ignoreOpen => ["\x7bignore\x7d".toList, "\x7b*".toList]
  | .ternary => [['{']]
  | .variableTag => [['{', '$']]
  | .constantTag => [['{', '#']]
  | .inclusion => ['{' :: TagKind.inclusion.name ++ "=\"".toList]
  | .loopOpen => ['{' :: TagKind.loopOpen.name ++ "=\"".toList]
  | .ifOpen => ['{' :: TagKind.ifOpen.name ++ "=\"".toList]
  | .elseIf => ['{' :: TagKind.elseIf.name ++ "=\"".toList]
  | .autoescapeOpen => ['{' :: TagKind.autoescapeOpen.name ++ "=\"".toList]
  | .functionCall => ['{' :: TagKind.functionCall.name ++ "=\"".toList]
  | kind => ['{' :: kind.name ++ ['}']]

/-- The kinds whose tags are fixed texts. -/
def fixedKinds : List TagKind :=
  [.rawCodeClose, .ignoreClose, .noParseClose, .ignoreOpen, .noParseOpen, .rawCodeOpen,
   .loopClose, .loopBreak, .loopContinue, .otherwise, .ifClose, .autoescapeClose]

theorem map_letterOf_opening (listed : opening ∈ kind.openings) :
    opening.map (letterOf ignoreCase) = opening := by
  have plain : ∀ kind ∈ TagKind.all, ∀ opening ∈ kind.openings,
      opening.map (letterOf true) = opening := by decide +kernel
  cases ignoreCase with
  | false => exact map_letterOf_false opening
  | true => exact plain kind kind.mem_all opening listed

/-! ## Expected text -/

theorem fixed?_isSome_iff {expected : List Char} :
    (fixed? ignoreCase expected text).isSome = true ↔
      expected.map (letterOf ignoreCase) <+: text.map (letterOf ignoreCase) := by
  induction expected generalizing text with
  | nil => simp [fixed?]
  | cons letter expected ih =>
    cases text with
    | nil => simp [fixed?]
    | cons c text =>
      rw [List.map_cons, List.map_cons, List.cons_prefix_cons, ← ih,
        eq_comm (a := letterOf ignoreCase letter), ← sameLetter_iff, fixed?]
      split <;> simp_all

@[simp] theorem fixed?_append (expected rest : List Char) :
    fixed? ignoreCase expected (expected ++ rest) = some (expected, rest) := by
  induction expected with
  | nil => rfl
  | cons c expected ih => simp [fixed?, ih]

theorem fixed?_opening_isSome_iff (listed : opening ∈ kind.openings) :
    (fixed? ignoreCase opening text).isSome = true ↔
      opening <+: text.map (letterOf ignoreCase) := by
  rw [fixed?_isSome_iff, map_letterOf_opening listed]

/-! ## Openings -/

theorem opening_of_output? {sigil : Char} (listed : ['{', sigil] ∈ kind.openings)
    (found : output? sigil text = some segments) :
    ['{', sigil] <+: text.map (letterOf ignoreCase) := by
  unfold output? at found
  split at found
  · rename_i mark first rest
    split at found
    · rename_i fits
      obtain rfl : mark = sigil := by simpa using (Bool.and_eq_true_iff.1 fits).1
      rw [← map_letterOf_opening listed]
      exact (List.prefix_append ['{', mark] (first :: rest)).map _
    · cases found
  · cases found

/-- A tag begins with one of the openings of its kind. -/
theorem opening_of_recognise? (found : kind.recognise? ignoreCase text = some segments) :
    ∃ opening ∈ kind.openings, opening <+: text.map (letterOf ignoreCase) := by
  have opens {opening : List Char} {parts : List Char × List Char}
      (listed : opening ∈ kind.openings) (fits : fixed? ignoreCase opening text = some parts) :
      ∃ opening ∈ kind.openings, opening <+: text.map (letterOf ignoreCase) :=
    ⟨opening, listed, (fixed?_opening_isSome_iff listed).1 (by rw [fits]; rfl)⟩
  cases kind with
  | ignoreClose | ignoreOpen =>
    simp only [TagKind.recognise?, keyword?, Option.orElse_eq_or, Option.or_eq_some_iff,
      Option.map_eq_some_iff] at found
    rcases found with ⟨_, fits, -⟩ | ⟨-, _, fits, -⟩
    · exact opens (.head _) fits
    · exact opens (.tail _ (.head _)) fits
  | inclusion | ifOpen | elseIf | autoescapeOpen | loopOpen | functionCall =>
    obtain ⟨_, fits, -⟩ := Option.bind_eq_some_iff.1 found
    exact opens (.head _) fits
  | ternary =>
    obtain ⟨inner, after, braced, rfl⟩ := (ternary?_braced found).between
    refine ⟨['{'], .head _, ?_⟩
    rw [braced, List.cons_append, List.map_cons, letterOf_symbol (by decide)]
    exact List.prefix_append ['{'] _
  | variableTag =>
    have listed : ['{', '$'] ∈ TagKind.variableTag.openings := .head _
    exact ⟨_, listed, opening_of_output? listed found⟩
  | constantTag =>
    have listed : ['{', '#'] ∈ TagKind.constantTag.openings := .head _
    exact ⟨_, listed, opening_of_output? listed found⟩
  | _ =>
    obtain ⟨_, fits, -⟩ := Option.map_eq_some_iff.1 found
    exact opens (.head _) fits

/-- Kinds whose tags are fixed texts are recognised by their openings. -/
theorem recognise?_isSome_iff_opening (isFixed : kind ∈ fixedKinds) :
    (kind.recognise? ignoreCase text).isSome = true ↔
      ∃ opening ∈ kind.openings, opening <+: text.map (letterOf ignoreCase) := by
  have fits {opening : List Char} (listed : opening ∈ kind.openings)
      (begins : opening <+: text.map (letterOf ignoreCase)) :
      ((fixed? ignoreCase opening text).map fun read => [Segment.fixed read.1]).isSome = true := by
    rw [Option.isSome_map, fixed?_opening_isSome_iff listed]
    exact begins
  have either {first second : Option (List Segment)}
      (one : first.isSome = true ∨ second.isSome = true) :
      (first.orElse fun _ => second).isSome = true := by
    cases first <;> simp_all
  constructor
  · intro found
    obtain ⟨segments, found⟩ := Option.isSome_iff_exists.1 found
    exact opening_of_recognise? found
  · rintro ⟨opening, listed, begins⟩
    cases kind with
    | ignoreClose | ignoreOpen =>
      -- These two have a second spelling.
      rcases List.mem_cons.1 listed with rfl | second
      · exact either (.inl (fits (.head _) begins))
      · obtain rfl := List.mem_singleton.1 second
        exact either (.inr (fits (.tail _ (.head _)) begins))
    | inclusion | loopOpen | ifOpen | elseIf | autoescapeOpen | functionCall | ternary
      | variableTag | constantTag => exact absurd isFixed (by decide)
    | _ =>
      obtain rfl := List.mem_singleton.1 listed
      exact fits (.head _) begins

/-- A tag is found behind one of the openings of its kind. -/
theorem opening_of_find? {found : TagMatch} (matched : kind.find? ignoreCase text = some found) :
    ∃ opening ∈ kind.openings, opening <:+: text.map (letterOf ignoreCase) := by
  obtain ⟨⟨before, segments⟩, fits, -⟩ := Option.map_eq_some_iff.1 matched
  obtain ⟨rest, rfl, here⟩ := findFirst?_spec fits
  obtain ⟨opening, listed, begins⟩ := opening_of_recognise? here
  exact ⟨opening, listed, begins.isInfix.trans ((List.suffix_append before rest).map _).isInfix⟩

theorem findFirst?_isSome_iff {recognise? : List Char → Option (List Segment)} :
    (findFirst? recognise? text).isSome = true ↔
      ∃ start, start ≠ [] ∧ start <:+ text ∧ (recognise? start).isSome = true := by
  induction text with
  | nil =>
    simp only [findFirst?, Option.isSome_none, Bool.false_eq_true, List.suffix_nil, false_iff]
    rintro ⟨start, filled, empty, -⟩
    exact filled empty
  | cons c rest ih =>
    rw [findFirst?]
    cases here : recognise? (c :: rest) with
    | some segments =>
      simp only [Option.isSome_some, true_iff]
      exact ⟨c :: rest, List.cons_ne_nil _ _, List.suffix_refl _, by rw [here]; rfl⟩
    | none =>
      rw [Option.isSome_map, ih]
      constructor
      · rintro ⟨start, filled, inside, found⟩
        exact ⟨start, filled, inside.trans (List.suffix_cons c rest), found⟩
      · rintro ⟨start, filled, inside, found⟩
        rcases List.suffix_cons_iff.1 inside with rfl | deeper
        · rw [here] at found
          cases found
        · exact ⟨start, filled, deeper, found⟩

/-- A fixed text is found wherever it stands, letter case aside. -/
theorem occursIn_iff_opening (isFixed : kind ∈ fixedKinds) :
    kind.occursIn ignoreCase text = true ↔
      ∃ opening ∈ kind.openings, opening <:+: text.map (letterOf ignoreCase) := by
  rw [TagKind.occursIn, TagKind.find?, Option.isSome_map, findFirst?_isSome_iff]
  constructor
  · rintro ⟨start, filled, inside, found⟩
    obtain ⟨opening, listed, begins⟩ := (recognise?_isSome_iff_opening isFixed).1 found
    exact ⟨opening, listed, begins.isInfix.trans (inside.map _).isInfix⟩
  · rintro ⟨opening, listed, inside⟩
    have filled : ∀ kind ∈ fixedKinds, [] ∉ kind.openings := by decide
    obtain ⟨stretch, ⟨before, after, rfl⟩, rfl⟩ := List.infix_map_iff.1 inside
    refine ⟨stretch ++ after, ?_, ⟨before, (List.append_assoc ..).symm⟩, ?_⟩
    · intro nothing
      rw [(List.append_eq_nil_iff.1 nothing).1] at listed
      exact filled kind isFixed listed
    · exact (recognise?_isSome_iff_opening isFixed).2
        ⟨_, listed, (List.prefix_append ..).map _⟩

/-! ## Ternaries -/

/-- A line is read up to its first stop. -/
theorem lineUpTo?_append {stop : Char} {body : List Char} (inside : stop ∉ body)
    (line : '\n' ∉ body) (rest : List Char) :
    lineUpTo? stop (body ++ stop :: rest) = some (body, rest) := by
  induction body with
  | nil => simp [lineUpTo?]
  | cons c body ih =>
    rw [List.mem_cons, not_or] at inside line
    have noStop : c ≠ stop := fun same => inside.1 same.symm
    have noBreak : c ≠ '\n' := fun same => line.1 same.symm
    simp [lineUpTo?, noStop, noBreak, ih inside.2 line.2]

theorem line_of_lineUpTo? {stop : Char} {body rest : List Char}
    (found : lineUpTo? stop text = some (body, rest)) : '\n' ∉ body := by
  fun_induction lineUpTo? stop text generalizing body with
  | case1 => cases found
  | case2 => simp_all
  | case3 => cases found
  | case4 c rest _ noBreak ih =>
    simp only [Option.map_eq_some_iff, Prod.mk.injEq] at found
    obtain ⟨⟨inner, after⟩, found, rfl, rfl⟩ := found
    rw [List.mem_cons, not_or]
    exact ⟨fun same => noBreak same.symm, ih found⟩

/-- Whatever stop a line is known to have, it is read up to the first one. -/
theorem exists_lineUpTo? {stop : Char} {body : List Char} (line : '\n' ∉ body)
    (rest : List Char) :
    ∃ first later, lineUpTo? stop (body ++ stop :: rest) = some (first, later ++ rest) ∧
      '\n' ∉ later := by
  by_cases inside : stop ∈ body
  · obtain ⟨first, later, rfl, before⟩ := List.eq_append_cons_of_mem inside
    simp only [List.mem_append, List.mem_cons, not_or] at line
    refine ⟨first, later ++ [stop], ?_, ?_⟩
    · simpa using lineUpTo?_append before line.1 (later ++ stop :: rest)
    · simp [line.2.2, line.2.1]
  · exact ⟨body, [], lineUpTo?_append inside line rest, by simp⟩

/-- A text begins like a ternary when a question mark, a colon and a closing brace
    follow its opening brace in this order, the last two on the line of the question
    mark and with no other brace or question mark before it. -/
def BeginsTernary (text : List Char) : Prop :=
  ∃ first more ifTrue ifFalse after,
    text = '{' :: first :: (more ++ '?' :: (ifTrue ++ ':' :: (ifFalse ++ '}' :: after))) ∧
    first ≠ '\n' ∧ (∀ c ∈ more, c ∉ ['{', '?', '}']) ∧ '\n' ∉ ifTrue ∧ '\n' ∉ ifFalse

/-- A text in which a ternary stands. -/
def HoldsTernary (text : List Char) : Prop := ∃ start, start <:+ text ∧ BeginsTernary start

theorem ternary?_of_lines {first : Char} {more branches ifTrue between ifFalse after : List Char}
    (noBreak : first ≠ '\n') (plain : ∀ c ∈ more, c ∉ ['{', '?', '}'])
    (yes : lineUpTo? ':' branches = some (ifTrue, between))
    (no : lineUpTo? '}' between = some (ifFalse, after)) :
    ternary? ('{' :: first :: (more ++ '?' :: branches)) =
      some [.fixed ['{'], .argument 1 (first :: more), .fixed ['?'], .argument 2 ifTrue,
        .fixed [':'], .argument 3 ifFalse, .fixed ['}']] := by
  have inCondition : ∀ c ∈ more, (c != '{' && c != '?' && c != '}') = true := by
    intro c inside
    simpa [and_assoc] using plain c inside
  rw [ternary?, if_neg noBreak]
  dsimp only
  rw [List.dropWhile_append_of_pos inCondition, List.takeWhile_append_of_pos inCondition]
  simp [fixed?, yes, no]

theorem ternary?_isSome_iff : (ternary? text).isSome = true ↔ BeginsTernary text := by
  constructor
  · intro found
    obtain ⟨segments, read⟩ := Option.isSome_iff_exists.1 found
    unfold ternary? at read
    split at read
    · rename_i first rest
      split at read
      · cases read
      · rename_i noBreak
        simp only [Option.bind_eq_bind, Option.bind_eq_some_iff, Prod.exists] at read
        obtain ⟨question, branches, asks, ifTrue, between, yes, ifFalse, after, no, -⟩ := read
        obtain ⟨rfl, tail⟩ := fixed?_symbols (by decide) asks
        -- The condition goes up to the first character that may not stand in it.
        let inCondition (c : Char) : Bool := c != '{' && c != '?' && c != '}'
        have asked : '?' :: branches = rest.dropWhile inCondition := tail
        refine ⟨first, rest.takeWhile inCondition, ifTrue, ifFalse, after, ?_, noBreak, ?_,
          line_of_lineUpTo? yes, line_of_lineUpTo? no⟩
        · rw [← lineUpTo?_spec no, ← lineUpTo?_spec yes, asked, List.takeWhile_append_dropWhile]
        · intro c inside
          simpa [inCondition, and_assoc] using List.mem_takeWhile_imp inside
    · cases read
  · rintro ⟨first, more, ifTrue, ifFalse, after, rfl, noBreak, plain, yes, no⟩
    obtain ⟨branch, later, read, line⟩ := exists_lineUpTo? yes (ifFalse ++ '}' :: after)
    have rest : '\n' ∉ later ++ ifFalse := by simp [line, no]
    obtain ⟨other, behind, closes, -⟩ := exists_lineUpTo? rest after
    rw [List.append_assoc] at closes
    rw [ternary?_of_lines noBreak plain read closes]
    rfl

theorem ternary_occursIn_iff :
    TagKind.ternary.occursIn ignoreCase text = true ↔ HoldsTernary text := by
  rw [TagKind.occursIn, TagKind.find?, Option.isSome_map, findFirst?_isSome_iff]
  constructor
  · rintro ⟨start, -, inside, found⟩
    exact ⟨start, inside, ternary?_isSome_iff.1 found⟩
  · rintro ⟨start, inside, begins⟩
    refine ⟨start, ?_, inside, ternary?_isSome_iff.2 begins⟩
    rintro rfl
    obtain ⟨_, _, _, _, _, nothing, -⟩ := begins
    cases nothing

/-! ## Tags that are not there -/

/-- What begins with a brace stands at the start of a text that has no other brace. -/
theorem isPrefix_of_single (single : '{' ∉ text.tail) (brace : opening.head? = some '{')
    (inside : opening <:+: text.map (letterOf ignoreCase)) :
    opening <+: text.map (letterOf ignoreCase) := by
  obtain ⟨more, rfl⟩ := List.head?_eq_some_iff.1 brace
  cases text with
  | nil => cases List.infix_nil.1 inside
  | cons c rest =>
    rw [List.map_cons, List.infix_cons_iff] at inside
    rcases inside with begins | ⟨before, after, same⟩
    · exact begins
    · have second : '{' ∈ rest.map (letterOf ignoreCase) := by simp [← same]
      obtain ⟨symbol, inRest, letter⟩ := List.mem_map.1 second
      rw [eq_of_letterOf (by decide) letter] at inRest
      exact absurd inRest single

/-- Openings with a brace are not found in a text that has its only brace at the start and
    begins otherwise. -/
theorem not_infix_of_apart {start rest : List Char} (single : '{' ∉ (start ++ rest).tail)
    (brace : opening.head? = some '{') (longer : ¬ opening <+: start.map (letterOf ignoreCase))
    (shorter : ¬ start.map (letterOf ignoreCase) <+: opening) :
    ¬ opening <:+: (start ++ rest).map (letterOf ignoreCase) := by
  intro inside
  have begins := isPrefix_of_single single brace inside
  have starts : start.map (letterOf ignoreCase) <+: (start ++ rest).map (letterOf ignoreCase) :=
    (List.prefix_append start rest).map _
  exact (List.prefix_or_prefix_of_prefix begins starts).elim longer shorter

theorem find?_eq_none_of_apart {start rest : List Char} (single : '{' ∉ (start ++ rest).tail)
    (apart : ∀ opening ∈ kind.openings, opening.head? = some '{' ∧
      ¬ opening <+: start.map (letterOf ignoreCase) ∧
      ¬ start.map (letterOf ignoreCase) <+: opening) :
    kind.find? ignoreCase (start ++ rest) = none := by
  cases matched : kind.find? ignoreCase (start ++ rest) with
  | none => rfl
  | some found =>
    obtain ⟨opening, listed, inside⟩ := opening_of_find? matched
    obtain ⟨brace, longer, shorter⟩ := apart opening listed
    exact absurd inside (not_infix_of_apart single brace longer shorter)

theorem find?_eq_none_iff :
    kind.find? ignoreCase text = none ↔ ¬ kind.occursIn ignoreCase text = true := by
  simp [TagKind.occursIn]

/-- A kind is what a text is read as when no kind before it is found. -/
theorem classify?_of_find? {front back : List TagKind} {found : TagMatch}
    (order : TagKind.ordinary = front ++ kind :: back)
    (passed : ∀ other ∈ front, other.find? ignoreCase text = none)
    (matched : kind.find? ignoreCase text = some found) :
    classify? ignoreCase text = some found := by
  rw [classify?, order, List.findSome?_append, List.findSome?_eq_none_iff.2 passed,
    Option.none_or, List.findSome?_cons, matched]

/-- A text in which a kind is found is read as that kind or as one that is tried
    earlier. -/
theorem classify?_cases {front back : List TagKind} {own found : TagMatch}
    (order : TagKind.ordinary = front ++ kind :: back)
    (matched : kind.find? ignoreCase text = some own)
    (classified : classify? ignoreCase text = some found) :
    found.kind ∈ front ∨
      (found = own ∧ ∀ other ∈ front, other.find? ignoreCase text = none) := by
  rw [classify?, order, List.findSome?_append] at classified
  cases earlier : front.findSome? fun other => other.find? ignoreCase text with
  | none =>
    rw [earlier, Option.none_or, List.findSome?_cons, matched] at classified
    exact .inr ⟨(Option.some.inj classified).symm, List.findSome?_eq_none_iff.1 earlier⟩
  | some first =>
    obtain ⟨other, listed, fits⟩ := List.exists_of_findSome?_eq_some earlier
    rw [earlier, Option.some_or, Option.some.injEq] at classified
    rw [← classified, TagKind.kind_find? fits]
    exact .inl listed

theorem find?_of_recognise? (filled : text ≠ [])
    (here : kind.recognise? ignoreCase text = some segments) :
    kind.find? ignoreCase text = some ⟨kind, [], segments⟩ := by
  cases text with
  | nil => exact absurd rfl filled
  | cons c rest => rw [TagKind.find?, findFirst?, here, Option.map_some]

end Stencil.Tag
