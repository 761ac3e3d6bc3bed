import Stencil.Proofs.EndTags
import Stencil.Proofs.Names
import Stencil.Proofs.StringTags

/-! # Tags with a quoted argument

Includes, loops, conditions and the openings of escaping blocks are a name with an argument
in quotes; behind that of a loop the names of its key and value may stand.  Whatever the
argument holds but a quote, an opening brace and the end of a comment, such a tag is one
candidate, no other kind of tag is found in it, and its argument is read as it was written.

* `argumentTag` — such a tag in a text;
* `IsWhole` — a tag that is all of a text, with its arguments;
* `find?_argumentTag`, `classify?_argumentTag` — how such a tag is read;
* `isCandidate_argumentTag`, `endless_argumentTag` — how it stands in a template;
* `candidate_argumentTag` — what becomes of it.
-/

namespace Stencil.Tag

open Stencil.Expr (IsIdentifier dropWhile_append_of_ends forall_listed isNameChar_of_isQuote
  takeWhile_append_of_ends)
open Stencil.Template (Enclosed IsCandidate enclosed_nil isQuote)
open Stencil.Text

variable {ignoreCase : Bool} {kind : TagKind} {argument name : List Char}
  {names : List (List Char)}

/-! ## Tags -/

/-- The kinds whose tags are a name and a quoted argument that may be any text. -/
def argumentKinds : List TagKind := [.inclusion, .loopOpen, .ifOpen, .elseIf, .autoescapeOpen]

/-- What such tags begin with. -/
def argumentOpening (kind : TagKind) : List Char := '{' :: kind.name ++ "=\"".toList

/-- The names that a loop binds, in its header. -/
def writtenBindings : List (List Char) → List Char
  | [] => []
  | first :: others => " as $".toList ++ first ++ others.flatMap (" => $".toList ++ ·)

@[simp] theorem writtenBindings_nil : writtenBindings [] = [] := rfl

@[simp] theorem writtenBindings_cons (first : List Char) (others : List (List Char)) :
    writtenBindings (first :: others) =
      " as $".toList ++ first ++ others.flatMap (" => $".toList ++ ·) := rfl

/-- The tag of a kind with an argument.  That of a loop may bind names. -/
def argumentTag (kind : TagKind) (argument : List Char) (names : List (List Char)) : List Char :=
  argumentOpening kind ++ (argument ++ '"' :: (writtenBindings names ++ ['}']))

/-- A tag of a kind that is all of a text, with its arguments in their order. -/
structure IsWhole (kind : TagKind) (text : List Char) (arguments : List (List Char))
    (found : TagMatch) : Prop where
  kind : found.kind = kind
  before : found.before = []
  whole : found.whole = text
  arguments : ∀ index, found.argument? (index + 1) = arguments[index]?

/-! ## Bindings -/

/-- A name in front of what ends it is read as it is written. -/
theorem bindings?_append {value? : Option (List Char)} {rest : List Char}
    (chars : ∀ c ∈ name, isNameChar c = true) (ends : bindings? rest = some ([], value?)) :
    bindings? (name ++ rest) = some (name, value?) := by
  induction name with
  | nil => exact ends
  | cons c name ih =>
    have char := chars c (.head _)
    have noSpace : ' ' ≠ c := by
      rintro rfl
      cases char
    have noBrace : c ≠ '}' := by
      rintro rfl
      cases char
    have noBreak : c ≠ '\n' := by
      rintro rfl
      cases char
    have later := ih fun d inside => chars d (.tail _ inside)
    simpa [bindings?, fixed?, sameLetter, noSpace, noBrace, noBreak] using later

theorem bindings?_value (chars : ∀ c ∈ name, isNameChar c = true) :
    bindings? (" => $".toList ++ (name ++ ['}'])) = some ([], some ('$' :: name)) := by
  have closing : lineUpTo? '}' (name ++ ['}']) = some (name, []) := by
    refine lineUpTo?_append ?_ ?_ []
    · intro inside
      cases chars _ inside
    · intro inside
      cases chars _ inside
  show bindings? (' ' :: '=' :: '>' :: ' ' :: '$' :: (name ++ ['}'])) = _
  simp [bindings?, fixed?, closing]

/-- Names behind ` as ` are the end of a loop tag. -/
theorem loopEnd?_of_bindings? {rest key : List Char} {value? : Option (List Char)}
    (read : bindings? rest = some (key, value?)) :
    loopEnd? ignoreCase (" as ".toList ++ ("$".toList ++ rest)) =
      some (.fixed " as ".toList :: .argument 2 ('$' :: key) ::
        match value? with
        | some value => [.fixed " => ".toList, .argument 3 value, .fixed ['}']]
        | none => [.fixed ['}']]) := by
  simp only [loopEnd?, fixed?_append, Option.bind_eq_bind, Option.bind_some, read]
  cases value? <;> rfl

/-- The segments of the names that a loop binds, and of its end. -/
def bindingSegments : List (List Char) → List Segment
  | [value] => [.fixed " as ".toList, .argument 2 ('$' :: value), .fixed ['}']]
  | [key, value] => [.fixed " as ".toList, .argument 2 ('$' :: key),
      .fixed " => ".toList, .argument 3 ('$' :: value), .fixed ['}']]
  | _ => [.fixed ['}']]

/-- A loop binds nothing, a value, or a key and a value. -/
theorem bindings_cases (short : names.length < 3) :
    names = [] ∨ (∃ value, names = [value]) ∨ ∃ key value, names = [key, value] := by
  rcases names with _ | ⟨first, _ | ⟨second, _ | ⟨third, others⟩⟩⟩
  · exact .inl rfl
  · exact .inr (.inl ⟨first, rfl⟩)
  · exact .inr (.inr ⟨first, second, rfl⟩)
  · simp only [List.length_cons] at short
    omega

/-- The names in the header of a loop are read as they are written. -/
theorem loopEnd?_bindings (short : names.length < 3) (named : ∀ name ∈ names, IsIdentifier name) :
    loopEnd? ignoreCase (writtenBindings names ++ ['}']) = some (bindingSegments names) := by
  rcases bindings_cases short with rfl | ⟨value, rfl⟩ | ⟨key, value, rfl⟩
  · have space : letterOf ignoreCase '}' ≠ letterOf ignoreCase ' ' := by
      cases ignoreCase <;> decide
    have different : sameLetter ignoreCase ' ' '}' = false := by
      rw [← Bool.not_eq_true, sameLetter_iff]
      exact space
    show loopEnd? ignoreCase ['}'] = some [.fixed ['}']]
    simp [loopEnd?, fixed?, different]
  · have ends : bindings? ['}'] = some ([], none) := by decide
    have read := bindings?_append (named value (.head _)).2 ends
    have whole : writtenBindings [value] ++ ['}'] =
        " as ".toList ++ ("$".toList ++ (value ++ ['}'])) := by simp
    rw [whole]
    exact loopEnd?_of_bindings? read
  · have ends := bindings?_value (named value (.tail _ (.head _))).2
    have read := bindings?_append (named key (.head _)).2 ends
    have whole : writtenBindings [key, value] ++ ['}'] =
        " as ".toList ++ ("$".toList ++ (key ++ (" => $".toList ++ (value ++ ['}'])))) := by simp
    rw [whole]
    exact loopEnd?_of_bindings? read

/-! ## Arguments -/

/-- An argument goes up to the quote behind it. -/
theorem upToQuote_append (quoteless : '"' ∉ argument) (rest : List Char) :
    (argument ++ '"' :: rest).takeWhile (· != '"') = argument ∧
      (argument ++ '"' :: rest).dropWhile (· != '"') = '"' :: rest := by
  have before : ∀ c ∈ argument, (c != '"') = true := by
    intro c inside
    rw [bne_iff_ne]
    rintro rfl
    exact quoteless inside
  have ends : ∀ c ∈ ('"' :: rest).head?, (c != '"') = false := by
    rintro c ⟨⟩
    rfl
  exact ⟨takeWhile_append_of_ends before ends, dropWhile_append_of_ends before ends⟩

theorem quotedArgument?_append (quoteless : '"' ∉ argument) (name rest : List Char) :
    quotedArgument? ignoreCase name
        (('{' :: name ++ "=\"".toList) ++ (argument ++ '"' :: '}' :: rest)) =
      some [.fixed ('{' :: name ++ "=\"".toList), .argument 1 argument, .fixed ['"', '}']] := by
  have closes : fixed? ignoreCase ['"', '}'] ('"' :: '}' :: rest) = some (['"', '}'], rest) :=
    fixed?_append ['"', '}'] rest
  obtain ⟨before, behind⟩ := upToQuote_append quoteless ('}' :: rest)
  rw [quotedArgument?, fixed?_append, Option.bind_eq_bind, Option.bind_some]
  dsimp only
  rw [before, behind, closes]
  rfl

theorem loop?_append {ending : List Segment} {rest : List Char} (quoteless : '"' ∉ argument)
    (ends : loopEnd? ignoreCase rest = some ending) :
    loop? ignoreCase (argumentOpening .loopOpen ++ (argument ++ '"' :: rest)) =
      some (.fixed (argumentOpening .loopOpen) :: .argument 1 argument :: .fixed ['"'] ::
        ending) := by
  have closes : fixed? ignoreCase "\"".toList ('"' :: rest) = some (['"'], rest) :=
    fixed?_append ['"'] rest
  obtain ⟨before, behind⟩ := upToQuote_append quoteless rest
  rw [loop?, argumentOpening, fixed?_append, Option.bind_eq_bind, Option.bind_some]
  dsimp only
  rw [before, behind, closes, Option.bind_some]
  dsimp only
  rw [ends]
  rfl

/-- The segments of a tag with an argument.  The end of a loop tag is read by itself. -/
def argumentSegments (kind : TagKind) (argument : List Char) (names : List (List Char)) :
    List Segment :=
  .fixed (argumentOpening kind) :: .argument 1 argument ::
    if kind = .loopOpen then .fixed ['"'] :: bindingSegments names else [.fixed ['"', '}']]

/-- What is written in such a tag is what is read from it. -/
theorem find?_argumentTag (listed : kind ∈ argumentKinds) (short : names.length < kind.arity)
    (named : ∀ name ∈ names, IsIdentifier name) (quoteless : '"' ∉ argument) :
    kind.find? ignoreCase (argumentTag kind argument names) =
      some ⟨kind, [], argumentSegments kind argument names⟩ := by
  refine find?_of_recognise? (List.cons_ne_nil _ _) ?_
  cases kind with
  | loopOpen => exact loop?_append quoteless (loopEnd?_bindings short named)
  | inclusion | ifOpen | elseIf | autoescapeOpen =>
    obtain rfl : names = [] := List.length_eq_zero_iff.1 (Nat.lt_one_iff.1 short)
    exact quotedArgument?_append quoteless _ []
  | _ => exact absurd listed (by decide)

theorem flatMap_text_bindingSegments (short : names.length < 3) :
    (bindingSegments names).flatMap Segment.text = writtenBindings names ++ ['}'] := by
  rcases bindings_cases short with rfl | ⟨value, rfl⟩ | ⟨key, value, rfl⟩
  · rfl
  · simp [bindingSegments, Segment.text]
  · simp [bindingSegments, Segment.text]

/-- The segments are all of the tag, and the arguments in them are numbered as they stand. -/
theorem isWhole_argumentTag (listed : kind ∈ argumentKinds) (short : names.length < kind.arity) :
    IsWhole kind (argumentTag kind argument names) (argument :: names.map ('$' :: ·))
      ⟨kind, [], argumentSegments kind argument names⟩ := by
  cases kind with
  | loopOpen =>
    have ending := flatMap_text_bindingSegments short
    refine ⟨rfl, rfl, ?_, fun index => ?_⟩
    · simp [TagMatch.whole, argumentSegments, argumentTag, Segment.text, ending]
    · rcases bindings_cases short with rfl | ⟨value, rfl⟩ | ⟨key, value, rfl⟩
      · rcases index with _ | index <;> rfl
      · rcases index with _ | _ | index <;> rfl
      · rcases index with _ | _ | _ | index <;> rfl
  | inclusion | ifOpen | elseIf | autoescapeOpen =>
    obtain rfl : names = [] := List.length_eq_zero_iff.1 (Nat.lt_one_iff.1 short)
    refine ⟨rfl, rfl, ?_, fun index => ?_⟩
    · simp [TagMatch.whole, argumentSegments, argumentTag, Segment.text]
    · cases index <;> rfl
  | _ => exact absurd listed (by decide)

/-! ## Other kinds -/

/-- Names bring no other characters into a header than the marks around them. -/
theorem not_mem_writtenBindings (named : ∀ name ∈ names, IsIdentifier name) {c : Char}
    (other : isNameChar c = false) (noMark : c ∉ " as $".toList ++ " => $".toList) :
    c ∉ writtenBindings names := by
  rw [List.mem_append, not_or] at noMark
  cases names with
  | nil => exact List.not_mem_nil
  | cons first others =>
    have inFirst : c ∉ first := (named first (.head _)).not_mem other
    have inOthers : ∀ name ∈ others, c ∉ name :=
      fun name inside => (named name (.tail _ inside)).not_mem other
    simp only [writtenBindings_cons, List.mem_append, List.mem_flatMap, not_or, not_exists, not_and]
    exact ⟨⟨noMark.1, inFirst⟩, fun name inside => ⟨noMark.2, inOthers name inside⟩⟩

theorem argumentOpening_mem_openings (listed : kind ∈ argumentKinds) :
    argumentOpening kind ∈ kind.openings := by
  have all : ∀ kind ∈ argumentKinds, argumentOpening kind ∈ kind.openings := by decide
  exact all kind listed

/-- The brace that begins a tag is the only one in it. -/
theorem single_argumentTag (listed : kind ∈ argumentKinds)
    (named : ∀ name ∈ names, IsIdentifier name) (single : '{' ∉ argument) :
    '{' ∉ (argumentTag kind argument names).tail := by
  have inName : ∀ kind ∈ argumentKinds, '{' ∉ kind.name := by decide
  have inBindings : '{' ∉ writtenBindings names :=
    not_mem_writtenBindings named (by decide) (by decide)
  simp [argumentTag, argumentOpening, inName kind listed, single, inBindings]

/-- No kind that is tried before is found in such a tag. -/
theorem classify?_argumentTag (listed : kind ∈ argumentKinds) (short : names.length < kind.arity)
    (named : ∀ name ∈ names, IsIdentifier name) (quoteless : '"' ∉ argument)
    (single : '{' ∉ argument) :
    classify? ignoreCase (argumentTag kind argument names) =
      some ⟨kind, [], argumentSegments kind argument names⟩ := by
  let front (kind : TagKind) := TagKind.ordinary.takeWhile (· ≠ kind)
  have order : ∀ kind ∈ argumentKinds,
      TagKind.ordinary = front kind ++ kind :: (TagKind.ordinary.dropWhile (· ≠ kind)).tail := by
    decide
  -- Names share first letters, as in `if` and `include`, so whole openings are compared.
  have apart : ∀ kind ∈ argumentKinds, ∀ other ∈ front kind, ∀ opening ∈ other.openings,
      opening.head? = some '{' ∧ ¬ opening <+: argumentOpening kind ∧
        ¬ argumentOpening kind <+: opening := by
    decide +kernel
  refine classify?_of_find? (order kind listed) (fun other earlier => ?_)
    (find?_argumentTag listed short named quoteless)
  refine find?_eq_none_of_apart (single_argumentTag listed named single) ?_
  rw [map_letterOf_opening (argumentOpening_mem_openings listed)]
  exact apart kind listed other earlier

/-! ## Candidates -/

theorem argumentTag_eq : argumentTag kind argument names =
    ('{' :: kind.name ++ ['=']) ++ '"' :: (argument ++ '"' :: (writtenBindings names ++ ['}'])) := by
  simp [argumentTag, argumentOpening]

theorem enclosed_writtenBindings (named : ∀ name ∈ names, IsIdentifier name) :
    Enclosed (writtenBindings names) := by
  have quoteless : ∀ c ∈ writtenBindings names, isQuote c = false := by
    intro c inside
    rw [← Bool.not_eq_true]
    intro quoted
    have marks : ∀ d ∈ " as $".toList ++ " => $".toList, isQuote d = false :=
      forall_listed (by decide)
    refine not_mem_writtenBindings named (isNameChar_of_isQuote quoted) (fun mark => ?_) inside
    cases quoted.symm.trans (marks c mark)
  have braceless : '}' ∉ writtenBindings names :=
    not_mem_writtenBindings named (by decide) (by decide)
  have whole := enclosed_nil.append quoteless braceless
  rwa [List.append_nil] at whole

/-- Such a tag is a candidate: its last character is the first closing brace outside
    strings. -/
theorem isCandidate_argumentTag (listed : kind ∈ argumentKinds)
    (named : ∀ name ∈ names, IsIdentifier name) (quoteless : '"' ∉ argument) :
    ∃ first inner, IsCandidate (argumentTag kind argument names) first inner := by
  have plain : ∀ kind ∈ argumentKinds, kind.name ≠ [] ∧
      ((kind.name ++ ['=']).all fun c => isQuote c = false) = true ∧ '}' ∉ kind.name ++ ['='] := by
    decide
  obtain ⟨filled, quoteFree, nameBraceless⟩ := plain kind listed
  have nameQuoteless : ∀ c ∈ kind.name ++ ['='], isQuote c = false := forall_listed quoteFree
  obtain ⟨first, rest, name⟩ := List.exists_cons_of_ne_nil filled
  rw [name, List.cons_append] at nameQuoteless nameBraceless
  rw [List.forall_mem_cons] at nameQuoteless
  rw [List.mem_cons, not_or] at nameBraceless
  -- Closing braces in the argument do not count, since it is a string.
  have enclosed : Enclosed (rest ++ ['='] ++ '"' :: (argument ++ '"' :: writtenBindings names)) :=
    ((enclosed_writtenBindings named).string quoteless).append nameQuoteless.2 nameBraceless.2
  have whole : argumentTag kind argument names = '{' :: first ::
      (rest ++ ['='] ++ '"' :: (argument ++ '"' :: writtenBindings names) ++ ['}']) := by
    rw [argumentTag_eq, name]
    simp
  rw [whole]
  exact ⟨first, _, enclosed.isCandidate nameQuoteless.1 (Ne.symm nameBraceless.1)⟩

/-- No region ends in such a tag. -/
theorem endless_argumentTag (listed : kind ∈ argumentKinds)
    (named : ∀ name ∈ names, IsIdentifier name) (single : '{' ∉ argument)
    (goesOn : ¬ "*\x7d".toList <:+: argument) :
    Endless ignoreCase (argumentTag kind argument names) := by
  rw [endless_iff]
  intro closer ends mark isMark
  have marks : ∀ closer ∈ regionEnds, ∀ mark ∈ endMarks closer, mark = "*\x7d".toList ∨
      mark.head? = some '{' ∧ ∀ kind ∈ argumentKinds, ¬ mark <+: argumentOpening kind ∧
        ¬ argumentOpening kind <+: mark := by
    decide
  rcases marks closer ends mark isMark with rfl | ⟨brace, apart⟩
  · -- Of the parts of the tag only the argument can hold the end of a comment.
    intro inside
    obtain ⟨stretch, within, letters⟩ := List.infix_map_iff.1 inside
    obtain rfl : stretch = "*\x7d".toList :=
      eq_of_map_letterOf (by decide) (letters.symm.trans (map_letterOf_mark isMark).symm)
    have inFront : ∀ kind ∈ argumentKinds, '*' ∉ '{' :: kind.name ++ ['='] := by decide
    have inBindings : '*' ∉ writtenBindings names :=
      not_mem_writtenBindings named (by decide) (by decide)
    have quoteless : '"' ∉ "*\x7d".toList := by decide
    rw [argumentTag_eq, infix_append_cons_iff quoteless, infix_append_cons_iff quoteless] at within
    rcases within with front | argument | behind
    · exact inFront kind listed (front.subset (.head _))
    · exact goesOn argument
    · have star := behind.subset (List.mem_cons_self : '*' ∈ _)
      simp [inBindings] at star
  · have same : (argumentOpening kind).map (letterOf ignoreCase) = argumentOpening kind :=
      map_letterOf_opening (argumentOpening_mem_openings listed)
    obtain ⟨longer, shorter⟩ := apart kind listed
    exact not_infix_of_apart (single_argumentTag listed named single) brace (by rwa [same])
      (by rwa [same])

end Stencil.Tag

namespace Stencil.Program

open Stencil.Expr (IsIdentifier)
open Stencil.Source (LineIndex)
open Stencil.Tag
open Stencil.Template
open Stencil.Text

/-- A tag with a quoted argument is cut as a whole and read as its kind, with the argument
    and the names as they are written.  Outside of regions every compiler takes it for that
    tag. -/
theorem candidate_argumentTag (kind : TagKind) (argument : List Char) (names : List (List Char))
    (listed : kind ∈ argumentKinds) (short : names.length < kind.arity)
    (named : ∀ name ∈ names, IsIdentifier name) (quoteless : '"' ∉ argument)
    (single : '{' ∉ argument) (goesOn : ¬ "*\x7d".toList <:+: argument) :
    let text := argumentTag kind argument names
    (∀ stripComments, tokenize stripComments text =
      [⟨.candidate, text, .ofBounds 0 (byteLength text)⟩]) ∧
    ∀ ignoreCase, ∃ found,
      classify? ignoreCase text = some found ∧
      IsWhole kind text (argument :: names.map ('$' :: ·)) found ∧
      ∀ (compiler : Compiler) (origin : Origin) (lines : LineIndex) (state : State)
        (span : Source.Span),
        compiler.options.caseInsensitiveTags = ignoreCase → state.region = .markup →
        compiler.candidate origin lines state span text =
          compiler.ordinaryTag origin lines state span found := by
  intro text
  obtain ⟨first, inner, candidate⟩ := isCandidate_argumentTag listed named quoteless
  refine ⟨tokenize_of_isCandidate candidate, fun ignoreCase => ?_⟩
  have classified : classify? ignoreCase text =
      some ⟨kind, [], argumentSegments kind argument names⟩ :=
    classify?_argumentTag listed short named quoteless single
  refine ⟨_, classified, isWhole_argumentTag listed short, ?_⟩
  rintro compiler origin lines state span rfl markup
  have active : IsActive compiler.options state.region ⟨.candidate, text, span⟩ :=
    ⟨rfl, markup, not_closesRegion_of_endless (endless_argumentTag listed named single goesOn)⟩
  exact step_of_active active classified

/-- Braces, apostrophes, line breaks and arrows in the collection of a loop are part of it. -/
theorem candidate_argumentTag_loop :
    let argument := "$f('\x7d') ? a\n: b => $c * don't".toList
    let names := ["k_1".toList, "v".toList]
    let text := argumentTag .loopOpen argument names
    text = "\x7bloop=\"$f('\x7d') ? a\n: b => $c * don't\" as $k_1 => $v\x7d".toList ∧
    TagKind.loopOpen ∈ argumentKinds ∧ names.length < TagKind.loopOpen.arity ∧
    (∀ name ∈ names, IsIdentifier name) ∧ '"' ∉ argument ∧ '{' ∉ argument ∧
    ¬ "*\x7d".toList <:+: argument ∧
    (∀ stripComments, tokenize stripComments text =
      [⟨.candidate, text, .ofBounds 0 (byteLength text)⟩]) ∧
    ∀ ignoreCase, ∃ found,
      classify? ignoreCase text = some found ∧
      IsWhole .loopOpen text (argument :: names.map ('$' :: ·)) found ∧
      ∀ (compiler : Compiler) (origin : Origin) (lines : LineIndex) (state : State)
        (span : Source.Span),
        compiler.options.caseInsensitiveTags = ignoreCase → state.region = .markup →
        compiler.candidate origin lines state span text =
          compiler.ordinaryTag origin lines state span found := by
  intro argument names text
  have listed : TagKind.loopOpen ∈ argumentKinds := by decide
  have short : names.length < TagKind.loopOpen.arity := by decide
  have named : ∀ name ∈ names, IsIdentifier name := by decide
  have quoteless : '"' ∉ argument := by decide
  have single : '{' ∉ argument := by decide
  have goesOn : ¬ "*\x7d".toList <:+: argument := by decide
  exact ⟨by decide, listed, short, named, quoteless, single, goesOn,
    candidate_argumentTag _ _ _ listed short named quoteless single goesOn⟩

end Stencil.Program
