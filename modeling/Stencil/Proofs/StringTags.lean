import Stencil.Proofs.Names
import Stencil.Proofs.Outputs
import Stencil.Proofs.QuotedStrings
import Stencil.Proofs.TagOpenings

/-! # Tags in strings

A candidate steps over its strings, but the shapes of tags are tried anywhere in
it.  A string that holds the text of a tag can thus be taken for that tag.

* `infix_append_cons_iff` — texts on either side of a character they do not have;
* `opens_of_find?` — where a tag with a quoted argument can begin;
* `compile_prints_iff` — templates that are one printing tag;
* `compile_quotedStrings` — exactly which strings are opaque in the two tags that
  take them.
-/

namespace Stencil.Text

variable {c : Char} {part left right before after : List Char}

/-! ## Around a character -/

/-- Where texts agree up to some occurrence of a character, the first one is as far
    or farther. -/
theorem append_cons_cases (outside : c ∉ left)
    (same : before ++ c :: after = left ++ c :: right) :
    (before = left ∧ after = right) ∨
      ∃ more, before = left ++ c :: more ∧ right = more ++ c :: after := by
  rcases List.append_eq_append_iff.1 same with ⟨more, rfl, tails⟩ | ⟨more, rfl, tails⟩
  · cases more with
    | nil =>
      obtain ⟨-, rfl⟩ := List.cons.inj tails
      exact .inl ⟨(List.append_nil before).symm, rfl⟩
    | cons d more =>
      obtain ⟨rfl, -⟩ := List.cons.inj tails
      exact absurd (by simp) outside
  · cases more with
    | nil =>
      obtain ⟨-, rfl⟩ := List.cons.inj tails
      exact .inl ⟨List.append_nil left, rfl⟩
    | cons d more =>
      obtain ⟨rfl, rest⟩ := List.cons.inj tails
      exact .inr ⟨more, rfl, rest⟩

/-- What a text without a character begins with stands in front of it. -/
theorem prefix_append_cons_iff (absent : c ∉ part) :
    part <+: left ++ c :: right ↔ part <+: left := by
  constructor
  · intro begins
    induction left generalizing part with
    | nil =>
      rcases List.prefix_cons_iff.1 begins with rfl | ⟨tail, rfl, -⟩
      · exact List.nil_prefix
      · exact absurd (List.mem_cons_self) absent
    | cons d left ih =>
      rcases List.prefix_cons_iff.1 begins with rfl | ⟨tail, rfl, rest⟩
      · exact List.nil_prefix
      · rw [List.mem_cons, not_or] at absent
        exact List.cons_prefix_cons.2 ⟨rfl, ih absent.2 rest⟩
  · intro begins
    exact begins.trans (List.prefix_append left (c :: right))

/-- What a text ends with that has no such character stands behind it. -/
theorem suffix_append_cons_iff (absent : c ∉ part) :
    part <:+ left ++ c :: right ↔ part <:+ right := by
  have absentReverse : c ∉ part.reverse := fun inside => absent (List.mem_reverse.1 inside)
  rw [← List.reverse_prefix, ← List.reverse_prefix, List.reverse_append, List.reverse_cons,
    List.append_assoc, List.singleton_append, prefix_append_cons_iff absentReverse]

/-- A text without a character stands on one side of it. -/
theorem infix_append_cons_iff (absent : c ∉ part) :
    part <:+: left ++ c :: right ↔ part <:+: left ∨ part <:+: right := by
  constructor
  · intro inside
    induction left with
    | nil =>
      rcases List.infix_cons_iff.1 inside with begins | within
      · have inFront : part <+: [] := (prefix_append_cons_iff absent).1 begins
        exact .inl inFront.isInfix
      · exact .inr within
    | cons d left ih =>
      rcases List.infix_cons_iff.1 inside with begins | within
      · have inFront : part <+: d :: left := (prefix_append_cons_iff absent).1 begins
        exact .inl inFront.isInfix
      · exact (ih within).imp_left fun inFront => inFront.trans (List.suffix_cons d left).isInfix
  · rintro (inside | inside)
    · exact inside.trans (List.prefix_append left (c :: right)).isInfix
    · exact inside.trans ((List.suffix_cons c right).trans (List.suffix_append left _)).isInfix

end Stencil.Text

namespace Stencil.Tag

open Stencil.Text
open Stencil.Template (Enclosed IsCandidate enclosed_nil)

variable {kind : TagKind} {text string ifTrue ifFalse : List Char}

/-! ## Tags with strings -/

/-- A variable with a modifier that takes a string. -/
def modifierTag (string : List Char) : List Char :=
  ['{', '$', 'x', '|', 'f', ':'] ++ '"' :: (string ++ '"' :: ['}'])

/-- A choice between two strings. -/
def choiceTag (ifTrue ifFalse : List Char) : List Char :=
  ['{', '$', 'x', '?'] ++ '"' :: (ifTrue ++ '"' :: ([':'] ++ '"' :: (ifFalse ++ '"' :: ['}'])))

/-- The tags that are fixed texts, in lower case. -/
def fixedTexts : List (List Char) := fixedKinds.flatMap TagKind.openings

/-- A fixed text in a tag with a string stands in the string. -/
theorem occursIn_modifierTag (isFixed : kind ∈ fixedKinds) :
    kind.occursIn false (modifierTag string) = true ↔
      ∃ opening ∈ kind.openings, opening <:+: string := by
  have apart : ∀ kind ∈ fixedKinds, ∀ opening ∈ kind.openings, '"' ∉ opening ∧
      ¬ opening <:+: ['{', '$', 'x', '|', 'f', ':'] ∧ ¬ opening <:+: ['}'] := by decide
  rw [occursIn_iff_opening isFixed, map_letterOf_false]
  refine exists_congr fun opening => and_congr_right fun listed => ?_
  obtain ⟨absent, front, back⟩ := apart kind isFixed opening listed
  rw [modifierTag, infix_append_cons_iff absent, infix_append_cons_iff absent]
  simp only [front, back, false_or, or_false]

theorem occursIn_choiceTag (isFixed : kind ∈ fixedKinds) :
    kind.occursIn false (choiceTag ifTrue ifFalse) = true ↔
      ∃ opening ∈ kind.openings, opening <:+: ifTrue ∨ opening <:+: ifFalse := by
  have apart : ∀ kind ∈ fixedKinds, ∀ opening ∈ kind.openings, '"' ∉ opening ∧
      ¬ opening <:+: ['{', '$', 'x', '?'] ∧ ¬ opening <:+: [':'] ∧ ¬ opening <:+: ['}'] := by decide
  rw [occursIn_iff_opening isFixed, map_letterOf_false]
  refine exists_congr fun opening => and_congr_right fun listed => ?_
  obtain ⟨absent, front, middle, back⟩ := apart kind isFixed opening listed
  rw [choiceTag, infix_append_cons_iff absent, infix_append_cons_iff absent,
    infix_append_cons_iff absent, infix_append_cons_iff absent]
  simp only [front, middle, back, false_or, or_false]

/-! ## Quoted arguments -/

/-- The kinds whose tags begin with a name and a quoted argument. -/
def quotedKinds : List TagKind :=
  [.inclusion, .loopOpen, .ifOpen, .elseIf, .autoescapeOpen, .functionCall]

/-- How a tag of such a kind goes on behind the quote that opens the argument. -/
def GoesOn : TagKind → List Char → Prop
  | .loopOpen, after => ∃ argument behind, after = argument ++ '"' :: behind ∧
      '"' ∉ argument ∧ (loopEnd? false behind).isSome = true
  | .functionCall, after => ∃ c, after.head? = some c ∧ (c = '\\' ∨ isFunctionLetter false c)
  | _, after => ∃ argument behind, after = argument ++ '"' :: '}' :: behind ∧ '"' ∉ argument

theorem split_of_opening {name start body after : List Char}
    (opens : fixed? false ('{' :: name ++ "=\"".toList) start = some (body, after)) :
    start = ('{' :: name ++ ['=']) ++ '"' :: after := by
  obtain ⟨split, same⟩ := fixed?_spec opens
  rw [map_letterOf_false, map_letterOf_false] at same
  rw [← split, same]
  simp

theorem goesOn_of_recognise? (listed : kind ∈ quotedKinds) {segments : List Segment}
    (found : kind.recognise? false text = some segments) :
    ∃ after, text = ('{' :: kind.name ++ ['=']) ++ '"' :: after ∧ GoesOn kind after := by
  have quoted {name : List Char} (found : quotedArgument? false name text = some segments) :
      ∃ after, text = ('{' :: name ++ ['=']) ++ '"' :: after ∧
        ∃ argument behind, after = argument ++ '"' :: '}' :: behind ∧ '"' ∉ argument := by
    obtain ⟨⟨body, after⟩, opens, found⟩ := Option.bind_eq_some_iff.1 found
    obtain ⟨⟨closing, behind⟩, closes, -⟩ := Option.bind_eq_some_iff.1 found
    obtain ⟨argument, -, outside, parts⟩ := upToQuote_spec after
    obtain ⟨-, tail⟩ := fixed?_symbols (by decide) closes
    exact ⟨after, split_of_opening opens, argument, behind, by rw [parts, ← tail]; rfl, outside⟩
  cases kind with
  | inclusion | ifOpen | elseIf | autoescapeOpen => exact quoted found
  | loopOpen =>
    obtain ⟨⟨body, after⟩, opens, found⟩ := Option.bind_eq_some_iff.1 found
    obtain ⟨⟨quote, behind⟩, closes, found⟩ := Option.bind_eq_some_iff.1 found
    obtain ⟨ending, ends, -⟩ := Option.bind_eq_some_iff.1 found
    obtain ⟨argument, -, outside, parts⟩ := upToQuote_spec after
    obtain ⟨-, tail⟩ := fixed?_symbols (by decide) closes
    exact ⟨after, split_of_opening opens, argument, behind, by rw [parts, ← tail]; rfl, outside,
      by rw [ends]; rfl⟩
  | functionCall =>
    obtain ⟨⟨body, after⟩, opens, found⟩ := Option.bind_eq_some_iff.1 found
    obtain ⟨_, letter, -⟩ := Option.bind_eq_some_iff.1 found
    refine ⟨after, split_of_opening opens, ?_⟩
    cases after with
    | nil => simp [guard] at letter
    | cons c rest =>
      refine ⟨c, rfl, ?_⟩
      by_cases slash : c = '\\'
      · exact .inl slash
      · exact .inr (by simpa [guard, slash] using letter)
  | _ => exact absurd listed (by decide)

/-- A tag with a quoted argument begins at an equals sign and a quote. -/
theorem opens_of_find? (listed : kind ∈ quotedKinds) {found : TagMatch}
    (matched : kind.find? false text = some found) :
    ∃ before after, text = (before ++ ('{' :: kind.name ++ ['='])) ++ '"' :: after ∧
      GoesOn kind after := by
  obtain ⟨⟨before, segments⟩, fits, -⟩ := Option.map_eq_some_iff.1 matched
  obtain ⟨start, rfl, here⟩ := findFirst?_spec fits
  obtain ⟨after, rfl, goesOn⟩ := goesOn_of_recognise? listed here
  exact ⟨before, after, (List.append_assoc ..).symm, goesOn⟩

/-- Behind the last quote no argument is left. -/
theorem not_goesOn_brace (listed : kind ∈ quotedKinds) : ¬ GoesOn kind ['}'] := by
  have noQuote {argument behind : List Char} : ['}'] ≠ argument ++ '"' :: behind := by
    intro same
    have inside : '"' ∈ ['}'] := by
      rw [same]
      simp
    simp at inside
  cases kind with
  | inclusion | ifOpen | elseIf | autoescapeOpen =>
    rintro ⟨argument, behind, same, -⟩
    exact noQuote same
  | loopOpen =>
    rintro ⟨argument, behind, same, -⟩
    exact noQuote same
  | functionCall =>
    rintro ⟨c, same, letter⟩
    obtain rfl : '}' = c := by simpa using same
    revert letter
    decide
  | _ => exact absurd listed (by decide)

/-- No tag with a quoted argument begins at a quote of a modifier's string. -/
theorem quoted_find?_modifierTag (listed : kind ∈ quotedKinds) (quoteless : '"' ∉ string) :
    kind.find? false (modifierTag string) = none := by
  cases matched : kind.find? false (modifierTag string) with
  | none => rfl
  | some found =>
    obtain ⟨before, after, split, goesOn⟩ := opens_of_find? listed matched
    have frontQuoteless : '"' ∉ ['{', '$', 'x', '|', 'f', ':'] := by decide
    rcases append_cons_cases frontQuoteless split.symm with ⟨same, -⟩ | ⟨more, -, rest⟩
    · -- The quote that opens the string stands behind a colon.
      have last := congrArg List.getLast? same
      rw [← List.append_assoc, List.getLast?_concat] at last
      exact absurd last (by decide)
    · rcases append_cons_cases quoteless rest.symm with ⟨-, rfl⟩ | ⟨others, -, rest⟩
      · exact absurd goesOn (not_goesOn_brace listed)
      · have inside : '"' ∈ ['}'] := by
          rw [rest]
          simp
        simp at inside

/-- Bindings go up to a closing brace on their line. -/
theorem bindings?_isSome (line : '\n' ∉ text) (closes : '}' ∈ text) :
    (bindings? text).isSome = true := by
  induction text with
  | nil => cases closes
  | cons c rest ih =>
    rw [List.mem_cons, not_or] at line
    have noBreak : c ≠ '\n' := fun same => line.1 same.symm
    simp only [bindings?]
    split
    · rfl
    · by_cases brace : c = '}'
      · simp [brace]
      · have later : '}' ∈ rest := (List.mem_cons.1 closes).resolve_left (Ne.symm brace)
        simp [brace, noBreak, ih line.2 later]

/-- Behind a string without a closing brace a loop goes on exactly when its bindings
    begin in the string. -/
theorem loopEnd?_isSome_iff (noBrace : '}' ∉ text) (line : '\n' ∉ text) :
    (loopEnd? false (text ++ '"' :: ['}'])).isSome = true ↔ " as $".toList <+: text := by
  constructor
  · intro found
    obtain ⟨segments, ends⟩ := Option.isSome_iff_exists.1 found
    simp only [loopEnd?, Option.orElse_eq_or, Option.or_eq_some_iff, Option.map_eq_some_iff,
      Option.bind_eq_bind, Option.bind_eq_some_iff, Prod.exists, Option.pure_def] at ends
    rcases ends with ⟨joint, rest, fits, dollar, names, sigil, -⟩ | ⟨-, body, rest, fits, -⟩
    · obtain ⟨split, same⟩ := fixed?_spec fits
      obtain ⟨-, tail⟩ := fixed?_symbols (by decide) sigil
      rw [map_letterOf_false, map_letterOf_false] at same
      have begins : " as $".toList <+: text ++ '"' :: ['}'] :=
        ⟨names, by rw [← split, same, ← tail]; simp⟩
      exact (prefix_append_cons_iff (by decide)).1 begins
    · obtain ⟨-, split⟩ := fixed?_symbols (by decide) fits
      cases text with
      | nil => simp at split
      | cons c text =>
        obtain ⟨rfl, -⟩ := List.cons.inj split
        exact absurd (.head _) noBrace
  · rintro ⟨names, rfl⟩
    have lineNames : '\n' ∉ names ++ '"' :: ['}'] := by
      rw [List.mem_append, not_or] at line
      simp [line.2]
    obtain ⟨⟨key, value?⟩, bound⟩ :=
      Option.isSome_iff_exists.1 (bindings?_isSome lineNames (by simp))
    cases value? <;> simp [loopEnd?, fixed?, bound]

/-- Of the tags with quoted arguments only a loop goes on behind the first string of a
    choice. -/
theorem goesOn_colon (listed : kind ∈ quotedKinds) (noBrace : '}' ∉ ifFalse)
    (line : '\n' ∉ ifFalse)
    (goesOn : GoesOn kind ([':'] ++ '"' :: (ifFalse ++ '"' :: ['}']))) :
    kind = .loopOpen ∧ " as $".toList <+: ifFalse := by
  have argument {argument behind : List Char} (outside : '"' ∉ argument)
      (same : [':'] ++ '"' :: (ifFalse ++ '"' :: ['}']) = argument ++ '"' :: behind) :
      ifFalse ++ '"' :: ['}'] = behind := by
    rcases append_cons_cases outside same with ⟨-, rest⟩ | ⟨more, colon, -⟩
    · exact rest
    · have inside : '"' ∈ [':'] := by
        rw [colon]
        simp
      simp at inside
  have quoted {behind : List Char} (same : ifFalse ++ '"' :: ['}'] = '}' :: behind) : False := by
    cases ifFalse with
    | nil => simp at same
    | cons c rest =>
      obtain ⟨rfl, -⟩ := List.cons.inj same
      exact noBrace (.head _)
  cases kind with
  | inclusion | ifOpen | elseIf | autoescapeOpen =>
    obtain ⟨_, behind, same, outside⟩ := goesOn
    exact absurd (argument outside same) quoted
  | loopOpen =>
    obtain ⟨_, behind, same, outside, ends⟩ := goesOn
    rw [← argument outside same] at ends
    exact ⟨rfl, (loopEnd?_isSome_iff noBrace line).1 ends⟩
  | functionCall =>
    obtain ⟨c, same, letter⟩ := goesOn
    obtain rfl : ':' = c := by simpa using same
    exact absurd letter (by decide)
  | _ => exact absurd listed (by decide)

/-- In a choice between strings, a tag with a quoted argument begins only where the
    first string ends like a loop tag and the second one goes on like it. -/
theorem quoted_find?_choiceTag (listed : kind ∈ quotedKinds) (quoteless : '"' ∉ ifTrue)
    (quotelessToo : '"' ∉ ifFalse) (noBrace : '}' ∉ ifFalse) (line : '\n' ∉ ifFalse)
    (noLoop : ¬ ("\x7bloop=".toList <:+ ifTrue ∧ " as $".toList <+: ifFalse)) :
    kind.find? false (choiceTag ifTrue ifFalse) = none := by
  cases matched : kind.find? false (choiceTag ifTrue ifFalse) with
  | none => rfl
  | some found =>
    obtain ⟨before, after, split, goesOn⟩ := opens_of_find? listed matched
    have equals (front : List Char) :
        before ++ ('{' :: kind.name ++ ['=']) ≠ front ++ ['?'] ∧
          before ++ ('{' :: kind.name ++ ['=']) ≠ front ++ [':'] := by
      constructor <;> intro same <;>
      · have last := congrArg List.getLast? same
        rw [← List.append_assoc, List.getLast?_concat, List.getLast?_concat] at last
        exact absurd last (by decide)
    -- The quote of the opening is one of four.
    have frontQuoteless : '"' ∉ ['{', '$', 'x', '?'] := by decide
    have colonQuoteless : '"' ∉ [':'] := by decide
    rcases append_cons_cases frontQuoteless split.symm with ⟨first, -⟩ | ⟨_, front, second⟩
    · exact absurd first (equals ['{', '$', 'x']).1
    rcases append_cons_cases quoteless second.symm with ⟨same, behind⟩ | ⟨_, same, third⟩
    · rw [behind] at goesOn
      obtain ⟨rfl, begins⟩ := goesOn_colon listed noBrace line goesOn
      have ends : "\x7bloop=".toList <:+ ['{', '$', 'x', '?'] ++ '"' :: ifTrue := by
        rw [← same, ← front]
        exact List.suffix_append before _
      exact absurd ⟨(suffix_append_cons_iff (by decide)).1 ends, begins⟩ noLoop
    rw [same] at front
    rcases append_cons_cases colonQuoteless third.symm with ⟨colon, -⟩ | ⟨_, -, fourth⟩
    · rw [colon] at front
      have atColon := (equals (['{', '$', 'x', '?'] ++ '"' :: (ifTrue ++ ['"']))).2
      exact absurd (front.trans (by simp)) atColon
    rcases append_cons_cases quotelessToo fourth.symm with ⟨-, behind⟩ | ⟨others, -, fifth⟩
    · rw [behind] at goesOn
      exact absurd goesOn (not_goesOn_brace listed)
    · have inside : '"' ∈ ['}'] := by
        rw [fifth]
        simp
      simp at inside

theorem loop_occursIn_choiceTag (ends : "\x7bloop=".toList <:+ ifTrue)
    (begins : " as $".toList <+: ifFalse) (noBrace : '}' ∉ ifFalse) (line : '\n' ∉ ifFalse) :
    TagKind.loopOpen.occursIn false (choiceTag ifTrue ifFalse) = true := by
  obtain ⟨front, rfl⟩ := ends
  obtain ⟨ending, read⟩ := Option.isSome_iff_exists.1 ((loopEnd?_isSome_iff noBrace line).2 begins)
  have fits : (TagKind.loopOpen.recognise? false (('{' :: TagKind.loopOpen.name ++ "=\"".toList) ++
      ([':'] ++ '"' :: (ifFalse ++ '"' :: ['}'])))).isSome = true := by
    show (loop? false _).isSome = true
    rw [loop?, fixed?_append, Option.bind_eq_bind, Option.bind_some]
    simp [fixed?, read]
  rw [TagKind.occursIn, TagKind.find?, Option.isSome_map, findFirst?_isSome_iff]
  refine ⟨_, List.cons_ne_nil _ _, ⟨['{', '$', 'x', '?'] ++ '"' :: front, ?_⟩, fits⟩
  have name : TagKind.loopOpen.name = "loop".toList := rfl
  rw [choiceTag, name]
  simp

/-! ## How the tags are read -/

theorem output?_of_enclosed {sigil first : Char} {rest : List Char} (enclosed : Enclosed rest)
    (noBrace : first ≠ '}') :
    output? sigil ('{' :: sigil :: first :: (rest ++ ['}'])) =
      some [.fixed ('{' :: sigil :: first :: (rest ++ ['}']))] := by
  simp [output?, noBrace, closeOutput?_of_allQuoted enclosed.1 enclosed.2]

theorem modifierTag_eq : modifierTag string =
    '{' :: '$' :: 'x' :: (('|' :: 'f' :: ':' :: '"' :: (string ++ '"' :: [])) ++ ['}']) := by
  simp [modifierTag]

theorem choiceTag_eq : choiceTag ifTrue ifFalse =
    '{' :: '$' :: 'x' ::
      (('?' :: '"' :: (ifTrue ++ '"' :: (':' :: '"' :: (ifFalse ++ '"' :: [])))) ++ ['}']) := by
  simp [choiceTag]

theorem enclosed_modifier (quoteless : '"' ∉ string) :
    Enclosed ('|' :: 'f' :: ':' :: '"' :: (string ++ '"' :: [])) :=
  (((enclosed_nil.string quoteless).cons rfl (by decide)).cons rfl (by decide)).cons rfl (by decide)

theorem enclosed_choice (quoteless : '"' ∉ ifTrue) (quotelessToo : '"' ∉ ifFalse) :
    Enclosed ('?' :: '"' :: (ifTrue ++ '"' :: (':' :: '"' :: (ifFalse ++ '"' :: [])))) :=
  (((enclosed_nil.string quotelessToo).cons rfl (by decide)).string quoteless).cons rfl (by decide)

theorem isCandidate_modifierTag (quoteless : '"' ∉ string) :
    IsCandidate (modifierTag string) '$'
      ('x' :: '|' :: 'f' :: ':' :: '"' :: (string ++ '"' :: [])) := by
  have enclosed : Enclosed ('x' :: '|' :: 'f' :: ':' :: '"' :: (string ++ '"' :: [])) :=
    (enclosed_modifier quoteless).cons rfl (by decide)
  rw [modifierTag_eq]
  exact enclosed.isCandidate rfl (by decide)

theorem isCandidate_choiceTag (quoteless : '"' ∉ ifTrue) (quotelessToo : '"' ∉ ifFalse) :
    IsCandidate (choiceTag ifTrue ifFalse) '$'
      ('x' :: '?' :: '"' :: (ifTrue ++ '"' :: (':' :: '"' :: (ifFalse ++ '"' :: [])))) := by
  have enclosed : Enclosed
      ('x' :: '?' :: '"' :: (ifTrue ++ '"' :: (':' :: '"' :: (ifFalse ++ '"' :: [])))) :=
    (enclosed_choice quoteless quotelessToo).cons rfl (by decide)
  rw [choiceTag_eq]
  exact enclosed.isCandidate rfl (by decide)

/-- The variable that begins a modifier's tag is read up to the end of the tag. -/
theorem variable_find?_modifierTag (quoteless : '"' ∉ string) :
    TagKind.variableTag.find? false (modifierTag string) =
      some ⟨.variableTag, [], [.fixed (modifierTag string)]⟩ := by
  refine find?_of_recognise? (List.cons_ne_nil _ _) ?_
  have noBrace : 'x' ≠ '}' := by decide
  have read : output? '$' (modifierTag string) = some [.fixed (modifierTag string)] := by
    rw [modifierTag_eq]
    exact output?_of_enclosed (enclosed_modifier quoteless) noBrace
  exact read

/-- A ternary with the condition `$x` and two branches. -/
def choiceMatch (yes no : List Char) : TagMatch :=
  ⟨.ternary, [], [.fixed ['{'], .argument 1 ['$', 'x'], .fixed ['?'], .argument 2 yes,
    .fixed [':'], .argument 3 no, .fixed ['}']]⟩

/-- A choice is read up to the first colon and from there up to the first brace. -/
theorem ternary_find?_choiceTag {yes between no after : List Char}
    (first : lineUpTo? ':' ('"' :: (ifTrue ++ '"' :: ([':'] ++ '"' :: (ifFalse ++ '"' :: ['}'])))) =
      some (yes, between))
    (second : lineUpTo? '}' between = some (no, after)) :
    TagKind.ternary.find? false (choiceTag ifTrue ifFalse) = some (choiceMatch yes no) := by
  have noBreak : '$' ≠ '\n' := by decide
  have plain : ∀ c ∈ ['x'], c ∉ ['{', '?', '}'] := by simp
  exact find?_of_recognise? (List.cons_ne_nil _ _) (ternary?_of_lines noBreak plain first second)

end Stencil.Tag

namespace Stencil.Program

open Stencil.Expr (resolve)
open Stencil.Source (LineIndex Span)
open Stencil.Tag
open Stencil.Template
open Stencil.Text

variable {text inner : List Char} {first : Char} {origin : Origin}

/-! ## Templates of one tag -/

/-- A template that is one candidate is compiled in one step. -/
theorem compile_candidate_iff (candidate : IsCandidate text first inner) (line : '\r' ∉ text)
    {program : Program} :
    (Compiler.compile ⟨{}, .empty⟩ text origin).result = .ok program ↔
      ∃ effect, Compiler.step ⟨{}, .empty⟩ origin (LineIndex.ofText text) {}
          ⟨.candidate, text, .ofBounds 0 (byteLength text)⟩ = .ok effect ∧
        effect.instructions = program.instructions ∧ ∀ block, effect.state.spans block = [] := by
  have tokens : Compiler.tokens ⟨{}, .empty⟩ text =
      [⟨.candidate, text, .ofBounds 0 (byteLength text)⟩] := by
    rw [Compiler.tokens, normalizeLineEndings_eq line]
    exact tokenize_of_isCandidate candidate false
  rw [compile_ok_iff, Compiler.runOver, tokens, normalizeLineEndings_eq line]
  constructor
  · rintro ⟨final, ran, closed⟩
    obtain ⟨effect, later, stepped, rest, whole⟩ := run_cons_ok_iff.1 ran
    obtain ⟨rfl, rfl⟩ := run_nil_ok_iff.1 rest
    exact ⟨effect, stepped, by rw [whole, List.append_nil], closed⟩
  · rintro ⟨effect, stepped, whole, closed⟩
    refine ⟨effect.state, run_cons_ok_iff.2 ⟨effect, [], stepped, run_nil_ok_iff.2 ⟨rfl, rfl⟩, ?_⟩,
      closed⟩
    rw [List.append_nil, whole]

/-- A template that is one candidate prints a value when the candidate ends no region
    and is a tag that prints it. -/
theorem compile_prints_iff (candidate : IsCandidate text first inner) (line : '\r' ∉ text)
    {expr : Expr} :
    (Compiler.compile ⟨{}, .empty⟩ text origin).result = .ok ⟨[.output expr]⟩ ↔
      ¬ ClosesRegion {} text ∧
        ∃ found, classify? false text = some found ∧ Printed ⟨{}, .empty⟩ {} found expr := by
  rw [compile_candidate_iff candidate line]
  constructor
  · rintro ⟨effect, stepped, written, -⟩
    have prints : .output expr ∈ effect.instructions := by simp [written]
    obtain ⟨active, found, classified, -, printed⟩ := printed_of_step stepped prints
    exact ⟨active.2.2, found, classified, printed⟩
  · rintro ⟨opens, found, classified, printed⟩
    have active : IsActive {} .markup ⟨.candidate, text, .ofBounds 0 (byteLength text)⟩ :=
      ⟨rfl, rfl, opens⟩
    refine ⟨{ state := {}, instructions := [.output expr] }, ?_, rfl, ?_⟩
    · rw [step_of_active active classified, ordinaryTag_of_printed printed]
    · intro block
      cases block <;> rfl

/-! ## Tags of strings -/

/-- What may stand in a string here: no double quote, no backslash and no line break. -/
def IsStringText (string : List Char) : Prop :=
  ∀ c ∈ string, c ∉ ['"', '\\', '\n', '\r']

instance (string : List Char) : Decidable (IsStringText string) :=
  List.decidableBAll _ string

/-- A string that holds no tag that is a fixed text. -/
def HoldsNoTag (string : List Char) : Prop := ∀ part ∈ fixedTexts, ¬ part <:+: string

theorem IsStringText.not_mem {string : List Char} (isText : IsStringText string) {c : Char}
    (listed : c ∈ ['"', '\\', '\n', '\r']) : c ∉ string :=
  fun inside => isText c inside listed

theorem not_closesRegion_iff :
    ¬ ClosesRegion {} text ↔ ∀ kind ∈ TagKind.all.take 3, ¬ kind.occursIn false text = true := by
  unfold ClosesRegion TagKind.all
  simp
  tauto

/-- Where no region ends and the kinds are passed, no fixed text stands. -/
theorem noFixed_of_passed {front : List TagKind} (opens : ¬ ClosesRegion {} text)
    (passed : ∀ kind ∈ front, kind.find? false text = none)
    (covered : ∀ kind ∈ fixedKinds, kind ∈ TagKind.all.take 3 ∨ kind ∈ front) :
    ∀ kind ∈ fixedKinds, ¬ kind.occursIn false text = true := by
  intro kind isFixed occurs
  rcases covered kind isFixed with closer | earlier
  · exact not_closesRegion_iff.1 opens kind closer occurs
  · exact find?_eq_none_iff.1 (passed kind earlier) occurs

theorem not_closesRegion_of_noFixed
    (noFixed : ∀ kind ∈ fixedKinds, ¬ kind.occursIn false text = true) :
    ¬ ClosesRegion {} text := by
  have closers : TagKind.all.take 3 ⊆ fixedKinds := by decide
  exact not_closesRegion_iff.2 fun kind closer => noFixed kind (closers closer)

/-- The kinds that are tried before ternaries are those of fixed texts and those of
    quoted arguments. -/
theorem find?_before_ternary (noFixed : ∀ kind ∈ fixedKinds, ¬ kind.occursIn false text = true)
    (noQuoted : ∀ kind ∈ quotedKinds, kind.find? false text = none) :
    ∀ kind ∈ TagKind.ordinary.take 15, kind.find? false text = none := by
  have kinds : TagKind.ordinary.take 15 ⊆ fixedKinds ++ quotedKinds := by decide
  intro kind listed
  rcases List.mem_append.1 (kinds listed) with isFixed | isQuoted
  · exact find?_eq_none_iff.2 (noFixed kind isFixed)
  · exact noQuoted kind isQuoted

theorem noFixed_modifierTag_iff {string : List Char} :
    (∀ kind ∈ fixedKinds, ¬ kind.occursIn false (modifierTag string) = true) ↔
      HoldsNoTag string := by
  simp only [HoldsNoTag, fixedTexts, List.mem_flatMap]
  constructor
  · rintro noFixed opening ⟨kind, isFixed, listed⟩ inside
    exact noFixed kind isFixed ((occursIn_modifierTag isFixed).2 ⟨opening, listed, inside⟩)
  · intro free kind isFixed occurs
    obtain ⟨opening, listed, inside⟩ := (occursIn_modifierTag isFixed).1 occurs
    exact free opening ⟨kind, isFixed, listed⟩ inside

theorem noFixed_choiceTag_iff {ifTrue ifFalse : List Char} :
    (∀ kind ∈ fixedKinds, ¬ kind.occursIn false (choiceTag ifTrue ifFalse) = true) ↔
      HoldsNoTag ifTrue ∧ HoldsNoTag ifFalse := by
  simp only [HoldsNoTag, fixedTexts, List.mem_flatMap]
  constructor
  · intro noFixed
    constructor
    · rintro opening ⟨kind, isFixed, listed⟩ inside
      exact noFixed kind isFixed ((occursIn_choiceTag isFixed).2 ⟨opening, listed, .inl inside⟩)
    · rintro opening ⟨kind, isFixed, listed⟩ inside
      exact noFixed kind isFixed ((occursIn_choiceTag isFixed).2 ⟨opening, listed, .inr inside⟩)
  · rintro ⟨free, freeToo⟩ kind isFixed occurs
    obtain ⟨opening, listed, inside | inside⟩ := (occursIn_choiceTag isFixed).1 occurs
    · exact free opening ⟨kind, isFixed, listed⟩ inside
    · exact freeToo opening ⟨kind, isFixed, listed⟩ inside

theorem IsStringText.not_mem_modifierTag {string : List Char} (isText : IsStringText string) :
    '\r' ∉ modifierTag string := by
  have inside : '\r' ∉ string := isText.not_mem (by decide)
  simp [modifierTag, inside]

theorem withoutBraces_modifierTag (string : List Char) :
    withoutBraces (modifierTag string) =
      '$' :: 'x' :: '|' :: 'f' :: ':' :: '"' :: (string ++ ['"']) := by
  have start : stripStart? ['{'] (modifierTag string) =
      some ('$' :: 'x' :: '|' :: 'f' :: ':' :: '"' :: (string ++ ['"', '}'])) := rfl
  have stop : stripEnd? ['}'] ('$' :: 'x' :: '|' :: 'f' :: ':' :: '"' :: (string ++ ['"', '}'])) =
      some ('$' :: 'x' :: '|' :: 'f' :: ':' :: '"' :: (string ++ ['"'])) := by
    simp [stripEnd?, List.isPrefixOf?]
  rw [withoutBraces, start, Option.bind_some, stop]
  rfl

/-- A modifier that is read up to the end of its tag prints its string. -/
theorem printed_modifierTag {string : List Char} (isText : IsStringText string) :
    Printed ⟨{}, .empty⟩ {} ⟨.variableTag, [], [.fixed (modifierTag string)]⟩
      (.modifier ['f'] (.code ['$', 'x']) (some ('"' :: (string ++ ['"'])))) := by
  have whole : TagMatch.whole ⟨.variableTag, [], [.fixed (modifierTag string)]⟩ =
      modifierTag string := by
    simp [TagMatch.whole, Segment.text]
  have value : resolve (withoutBraces (TagMatch.whole ⟨.variableTag, [],
      [.fixed (modifierTag string)]⟩)) 0 none =
      ⟨.modifier ['f'] (.code ['$', 'x']) (some ('"' :: (string ++ ['"']))), true, false⟩ := by
    rw [whole, withoutBraces_modifierTag]
    exact Expr.resolve_modifier (isText.not_mem (by decide)) (isText.not_mem (by decide))
  have printed : Printed ⟨{}, .empty⟩ {} ⟨.variableTag, [], [.fixed (modifierTag string)]⟩
      (resolve (withoutBraces (TagMatch.whole ⟨.variableTag, [],
        [.fixed (modifierTag string)]⟩)) 0 none).expr := by
    refine .variableTag rfl ?_
    show (resolve _ 0 none).isOutput = true
    rw [value]
    rfl
  rwa [value] at printed

/-- A modifier keeps its string exactly when the string holds no tag and no ternary is
    found in the tag. -/
theorem compile_modifierTag_iff {string : List Char} (isText : IsStringText string) :
    (Compiler.compile ⟨{}, .empty⟩ (modifierTag string) origin).result =
        .ok ⟨[.output (.modifier ['f'] (.code ['$', 'x']) (some ('"' :: (string ++ ['"']))))]⟩ ↔
      HoldsNoTag string ∧ ¬ HoldsTernary (modifierTag string) := by
  have quoteless : '"' ∉ string := isText.not_mem (by decide)
  have order : TagKind.ordinary = (TagKind.ordinary.take 15 ++ [.ternary]) ++ .variableTag ::
      [.constantTag] := rfl
  have read := variable_find?_modifierTag quoteless
  rw [compile_prints_iff (isCandidate_modifierTag quoteless) isText.not_mem_modifierTag,
    ← noFixed_modifierTag_iff, ← @ternary_occursIn_iff false, ← find?_eq_none_iff]
  constructor
  · rintro ⟨opens, found, classified, printed⟩
    -- Only variables and constants print a modifier, and no kind is tried later.
    have late : found.kind ∉ TagKind.ordinary.take 15 ++ [.ternary] := by
      generalize value : Expr.modifier _ _ _ = expr at printed
      cases printed with
      | call | callWith | ternary => cases value
      | variableTag kind | constantTag kind =>
        rw [kind]
        decide
    rcases classify?_cases order read classified with earlier | ⟨-, passed⟩
    · exact absurd earlier late
    · exact ⟨noFixed_of_passed opens passed (by decide), passed .ternary (by decide)⟩
  · rintro ⟨noFixed, noTernary⟩
    have noQuoted : ∀ kind ∈ quotedKinds, kind.find? false (modifierTag string) = none :=
      fun kind isQuoted => quoted_find?_modifierTag isQuoted quoteless
    refine ⟨not_closesRegion_of_noFixed noFixed, _,
      classify?_of_find? order (fun kind listed => ?_) read, printed_modifierTag isText⟩
    rcases List.mem_append.1 listed with earlier | ternary
    · exact find?_before_ternary noFixed noQuoted kind earlier
    · rwa [List.mem_singleton.1 ternary]

theorem IsStringText.not_mem_choiceTag {ifTrue ifFalse : List Char}
    (isText : IsStringText ifTrue) (isTextToo : IsStringText ifFalse) :
    '\r' ∉ choiceTag ifTrue ifFalse := by
  have first : '\r' ∉ ifTrue := isText.not_mem (by decide)
  have second : '\r' ∉ ifFalse := isTextToo.not_mem (by decide)
  simp [choiceTag, first, second]

/-- What is read of a string up to a stop that stands behind it: the string, or what is in
    front of the first stop in it. -/
def IsStringPart (stop : Char) (string part : List Char) : Prop :=
  (stop ∉ string ∧ part = '"' :: (string ++ ['"'])) ∨
    ∃ front more, string = front ++ stop :: more ∧ part = '"' :: front

theorem exists_stringPart {stop : Char} {string : List Char} (other : stop ≠ '"')
    (line : '\n' ∉ string) (behind : List Char) :
    ∃ part rest, lineUpTo? stop ('"' :: (string ++ '"' :: stop :: behind)) = some (part, rest) ∧
      IsStringPart stop string part ∧ (stop ∉ string → rest = behind) ∧
      ∃ front, rest = front ++ behind ∧ '\n' ∉ front := by
  by_cases inside : stop ∈ string
  · obtain ⟨front, more, rfl, before⟩ := List.eq_append_cons_of_mem inside
    simp only [List.mem_append, List.mem_cons, not_or] at line
    have read : lineUpTo? stop (('"' :: front) ++ stop :: (more ++ '"' :: stop :: behind)) =
        some ('"' :: front, more ++ '"' :: stop :: behind) :=
      lineUpTo?_append (by simp [other, before]) (by simp [line]) _
    refine ⟨'"' :: front, more ++ '"' :: stop :: behind, by simpa using read,
      .inr ⟨front, more, rfl, rfl⟩, fun absent => absurd inside absent,
      more ++ ['"', stop], by simp, by simp [line]⟩
  · have read : lineUpTo? stop (('"' :: (string ++ ['"'])) ++ stop :: behind) =
        some ('"' :: (string ++ ['"']), behind) :=
      lineUpTo?_append (by simp [other, inside]) (by simp [line]) _
    exact ⟨'"' :: (string ++ ['"']), behind, by simpa using read, .inl ⟨inside, rfl⟩, fun _ => rfl,
      [], rfl, List.not_mem_nil⟩

/-- Only a whole string stands for itself. -/
theorem resolve_stringPart_iff {stop : Char} {string part : List Char} (quoteless : '"' ∉ string)
    (plain : '\\' ∉ string) (isPart : IsStringPart stop string part) :
    (resolve part 0 none).expr = .code ('"' :: (string ++ ['"'])) ↔ stop ∉ string := by
  rcases isPart with ⟨absent, rfl⟩ | ⟨front, more, rfl, rfl⟩
  · exact iff_of_true (Expr.resolve_string quoteless plain) absent
  · simp only [List.mem_append, List.mem_cons, not_or] at quoteless plain
    rw [Expr.resolve_open quoteless.1 plain.1]
    refine iff_of_false (fun same => ?_) (by simp)
    -- The part is shorter than the string.
    have lengths := congrArg List.length (Expr.code.inj same)
    simp only [List.length_cons, List.length_append, List.length_nil] at lengths
    omega

/-- How a choice between strings is read: up to the first colon, and from there up to
    the first closing brace. -/
structure ChoiceParts (ifTrue ifFalse yes no : List Char) : Prop where
  read : TagKind.ternary.find? false (choiceTag ifTrue ifFalse) = some (choiceMatch yes no)
  yes : IsStringPart ':' ifTrue yes
  /-- Where the first part goes on into the second string there is nothing to say. -/
  no : ':' ∉ ifTrue → IsStringPart '}' ifFalse no

theorem exists_choiceParts {ifTrue ifFalse : List Char} (isText : IsStringText ifTrue)
    (isTextToo : IsStringText ifFalse) : ∃ yes no, ChoiceParts ifTrue ifFalse yes no := by
  have line : '\n' ∉ ifTrue := isText.not_mem (by decide)
  have lineToo : '\n' ∉ ifFalse := isTextToo.not_mem (by decide)
  have noColon : ':' ≠ '"' := by decide
  have noBrace : '}' ≠ '"' := by decide
  obtain ⟨yes, between, first, yesPart, whole, front, split, frontLine⟩ :=
    exists_stringPart noColon line ('"' :: (ifFalse ++ '"' :: ['}']))
  by_cases colon : ':' ∈ ifTrue
  · have rest : '\n' ∉ front ++ '"' :: (ifFalse ++ ['"']) := by
      simp [frontLine, lineToo]
    obtain ⟨no, after, second, -⟩ := @exists_lineUpTo? '}' _ rest []
    have closes : lineUpTo? '}' between = some (no, after ++ []) := by
      rw [split]
      simpa using second
    exact ⟨yes, no, ternary_find?_choiceTag first closes, yesPart,
      fun absent => absurd colon absent⟩
  · obtain ⟨no, after, second, noPart, -, -⟩ := exists_stringPart noBrace lineToo []
    rw [← whole colon] at second
    exact ⟨yes, no, ternary_find?_choiceTag first second, yesPart, fun _ => noPart⟩

/-- A choice that prints its strings is read as it was written. -/
theorem ChoiceParts.whole_of_printed {ifTrue ifFalse yes no : List Char}
    (parts : ChoiceParts ifTrue ifFalse yes no) (isText : IsStringText ifTrue)
    (isTextToo : IsStringText ifFalse)
    (printed : Printed ⟨{}, .empty⟩ {} (choiceMatch yes no)
      (.ternary (.code ['$', 'x']) (.code ('"' :: (ifTrue ++ ['"'])))
        (.code ('"' :: (ifFalse ++ ['"']))))) : ':' ∉ ifTrue ∧ '}' ∉ ifFalse := by
  generalize value : Expr.ternary _ _ _ = expr at printed
  cases printed with
  | call kind | callWith kind | variableTag kind | constantTag kind => cases kind
  | ternary kind resolved =>
    obtain ⟨-, first, second⟩ := Expr.ternary.inj value
    have noColon : ':' ∉ ifTrue :=
      (resolve_stringPart_iff (isText.not_mem (by decide)) (isText.not_mem (by decide))
        parts.yes).1 ((resolved 2).symm.trans first.symm)
    exact ⟨noColon, (resolve_stringPart_iff (isTextToo.not_mem (by decide))
      (isTextToo.not_mem (by decide)) (parts.no noColon)).1 ((resolved 3).symm.trans second.symm)⟩

/-- A choice that is read as it was written prints its strings. -/
theorem ChoiceParts.printed {ifTrue ifFalse yes no : List Char}
    (parts : ChoiceParts ifTrue ifFalse yes no) (isText : IsStringText ifTrue)
    (isTextToo : IsStringText ifFalse) (noColon : ':' ∉ ifTrue) (noBrace : '}' ∉ ifFalse) :
    Printed ⟨{}, .empty⟩ {} (choiceMatch yes no)
      (.ternary (.code ['$', 'x']) (.code ('"' :: (ifTrue ++ ['"'])))
        (.code ('"' :: (ifFalse ++ ['"'])))) := by
  have condition : (resolve ['$', 'x'] 0 none).expr = .code ['$', 'x'] := by decide +kernel
  have first := (resolve_stringPart_iff (isText.not_mem (by decide)) (isText.not_mem (by decide))
    parts.yes).2 noColon
  have second := (resolve_stringPart_iff (isTextToo.not_mem (by decide))
    (isTextToo.not_mem (by decide)) (parts.no noColon)).2 noBrace
  rw [← condition, ← first, ← second]
  let part (index : Nat) : Expr := (resolve ((choiceMatch yes no).argument index) 0 none).expr
  exact @Printed.ternary _ _ (choiceMatch yes no) part rfl fun index => rfl

/-- A choice keeps its strings exactly when they hold no tag, the first one no colon and
    the second one no closing brace, and they do not make up a loop with what stands
    between them. -/
theorem compile_choiceTag_iff {ifTrue ifFalse : List Char} (isText : IsStringText ifTrue)
    (isTextToo : IsStringText ifFalse) :
    (Compiler.compile ⟨{}, .empty⟩ (choiceTag ifTrue ifFalse) origin).result =
        .ok ⟨[.output (.ternary (.code ['$', 'x']) (.code ('"' :: (ifTrue ++ ['"'])))
          (.code ('"' :: (ifFalse ++ ['"']))))]⟩ ↔
      HoldsNoTag ifTrue ∧ HoldsNoTag ifFalse ∧ ':' ∉ ifTrue ∧ '}' ∉ ifFalse ∧
        ¬ ("\x7bloop=".toList <:+ ifTrue ∧ " as $".toList <+: ifFalse) := by
  have quoteless : '"' ∉ ifTrue := isText.not_mem (by decide)
  have quotelessToo : '"' ∉ ifFalse := isTextToo.not_mem (by decide)
  have line : '\n' ∉ ifFalse := isTextToo.not_mem (by decide)
  have order : TagKind.ordinary = TagKind.ordinary.take 15 ++ .ternary ::
      [.variableTag, .constantTag] := rfl
  obtain ⟨yes, no, parts⟩ := exists_choiceParts isText isTextToo
  rw [compile_prints_iff (isCandidate_choiceTag quoteless quotelessToo)
    (isText.not_mem_choiceTag isTextToo), ← and_assoc, ← noFixed_choiceTag_iff]
  constructor
  · rintro ⟨opens, found, classified, printed⟩
    -- Of the kinds that are tried before ternaries only calls print anything.
    have late : found.kind ∉ TagKind.ordinary.take 15 := by
      generalize value : Expr.ternary _ _ _ = expr at printed
      cases printed with
      | call | callWith => cases value
      | ternary kind | variableTag kind | constantTag kind =>
        rw [kind]
        decide
    rcases classify?_cases order parts.read classified with earlier | ⟨rfl, passed⟩
    · exact absurd earlier late
    obtain ⟨noColon, noBrace⟩ := parts.whole_of_printed isText isTextToo printed
    refine ⟨noFixed_of_passed opens passed (by decide), noColon, noBrace, ?_⟩
    rintro ⟨ends, begins⟩
    exact find?_eq_none_iff.1 (passed .loopOpen (by decide))
      (loop_occursIn_choiceTag ends begins noBrace line)
  · rintro ⟨noFixed, noColon, noBrace, noLoop⟩
    have noQuoted : ∀ kind ∈ quotedKinds, kind.find? false (choiceTag ifTrue ifFalse) = none :=
      fun kind isQuoted =>
        quoted_find?_choiceTag isQuoted quoteless quotelessToo noBrace line noLoop
    exact ⟨not_closesRegion_of_noFixed noFixed, _,
      classify?_of_find? order (find?_before_ternary noFixed noQuoted) parts.read,
      parts.printed isText isTextToo noColon noBrace⟩

/-- The strings of a tag are opaque exactly when no tag is found in them: neither one
    that is a fixed text, nor a ternary or a loop that begins in a string, and a choice
    ends its strings at their first colon and brace. -/
theorem compile_quotedStrings {string ifTrue ifFalse : List Char} (isText : IsStringText string)
    (firstIsText : IsStringText ifTrue) (secondIsText : IsStringText ifFalse) :
    ((Compiler.compile ⟨{}, .empty⟩ (modifierTag string) origin).result =
        .ok ⟨[.output (.modifier ['f'] (.code ['$', 'x']) (some ('"' :: (string ++ ['"']))))]⟩ ↔
      HoldsNoTag string ∧ ¬ HoldsTernary (modifierTag string)) ∧
    ((Compiler.compile ⟨{}, .empty⟩ (choiceTag ifTrue ifFalse) origin).result =
        .ok ⟨[.output (.ternary (.code ['$', 'x']) (.code ('"' :: (ifTrue ++ ['"'])))
          (.code ('"' :: (ifFalse ++ ['"']))))]⟩ ↔
      HoldsNoTag ifTrue ∧ HoldsNoTag ifFalse ∧ ':' ∉ ifTrue ∧ '}' ∉ ifFalse ∧
        ¬ ("\x7bloop=".toList <:+ ifTrue ∧ " as $".toList <+: ifFalse)) :=
  ⟨compile_modifierTag_iff isText, compile_choiceTag_iff firstIsText secondIsText⟩

/-- A string that is the text of a tag makes the tag it stands in that tag. -/
theorem compile_quotedStrings_else :
    let compiler : Compiler := ⟨{}, .empty⟩
    let string := "\x7belse\x7d".toList
    let whole := '"' :: (string ++ ['"'])
    IsStringText string ∧
    (compiler.compile (modifierTag string) (.file [] [])).result = .ok ⟨[.otherwise]⟩ ∧
    (compiler.compile (modifierTag string) (.file [] [])).result ≠
      .ok ⟨[.output (.modifier ['f'] (.code ['$', 'x']) (some whole))]⟩ ∧
    (compiler.compile (choiceTag string string) (.file [] [])).result ≠
      .ok ⟨[.output (.ternary (.code ['$', 'x']) (.code whole) (.code whole))]⟩ := by
  intro compiler string whole
  have isText : IsStringText string := by decide
  have holdsTag : ¬ HoldsNoTag string := by
    unfold HoldsNoTag
    decide
  obtain ⟨modifier, choice⟩ :=
    @compile_quotedStrings (.file [] []) string string string isText isText isText
  exact ⟨isText, by decide +kernel, fun same => holdsTag (modifier.1 same).1,
    fun same => holdsTag (choice.1 same).1⟩

end Stencil.Program
