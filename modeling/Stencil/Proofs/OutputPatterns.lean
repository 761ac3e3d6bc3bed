import Stencil.Pattern.Reader
import Stencil.Proofs.CandidateGrammar
import Stencil.Proofs.LeadingThreads
import Stencil.Proofs.QuotedStrings

/-! # The patterns of printed values

Variables and constants are found by a pattern with a lazy beginning, a greedy
repetition of strings and lazy gaps between them.  Of the many ways in which it matches
a candidate, the leading threads take the one in which the candidate is cut: every
string is passed as a string, and the first closing brace outside of them is the end.

* `outputPattern` — the patterns as they are written;
* `contains_mark`, `contains_otherThan` — their sets, in both modes of letter case;
* `Gap` — the works between two strings, and `expand_gap`, where they lead;
* `prevails_leadingWorks` — they match what a candidate goes on with;
* `outputPattern_candidate` — the first match in a candidate is all of it.
-/

namespace Stencil.Pattern

open Stencil.Template
open Stencil.Text

/-! ## Sets -/

/-- The set of a character that a pattern names. -/
def mark (ignoreCase : Bool) (c : Char) : CharSet :=
  if ignoreCase then .anyCase (.single c) else .single c

/-- The set of all other characters. -/
def otherThan (ignoreCase : Bool) (c : Char) : CharSet :=
  let set := CharSet.union .empty (.single c)
  .complement (if ignoreCase then .anyCase set else set)

/-- The characters that the patterns name. -/
def marks : List Char := ['{', '}', '$', '#', '"', '\'']

variable {ignoreCase hashed : Bool} {s c quote : Char} {regex : Regex} {text inside : List Char}

/-- A mark is the only character that it is the other letter case of. -/
theorem eq_of_mem_orbit (listed : s ∈ marks) (inOrbit : s ∈ orbit c) : c = s := by
  have apart : ∀ run ∈ foldRuns, run.first ≤ run.last ∧
      (run.last < 0xD800 ∨ 0xE000 ≤ run.first ∧ run.last < 0x110000) ∧
      ∀ code ∈ marks.map Char.toNat, ¬ (run.first ≤ code ∧ code ≤ run.last) := by decide +kernel
  rcases List.mem_cons.1 inOrbit with folded | source
  · have plain : marks.all (fun s => decide (s.toNat < 128) && !s.isLower) = true := by decide
    have here := List.all_eq_true.1 plain s listed
    rw [Bool.and_eq_true, decide_eq_true_eq, Bool.not_eq_true'] at here
    exact eq_of_fold folded.symm here.1 here.2
  · obtain ⟨code, codes, rfl⟩ := List.mem_map.1 source
    obtain ⟨run, inRuns, found⟩ := List.mem_filterMap.1 codes
    obtain ⟨ordered, valid, outside⟩ := apart run inRuns
    simp only [FoldRun.source?, Bool.and_eq_true, decide_eq_true_eq, Option.ite_none_right_eq_some,
      Option.some.injEq] at found
    obtain ⟨⟨⟨least, greatest⟩, -⟩, same⟩ := found
    have isChar : code.isValidChar := by
      unfold Nat.isValidChar
      omega
    have value : (Char.ofNat code).toNat = code := by
      rw [Char.ofNat, dif_pos isChar]
      rfl
    exact absurd (by rw [value]; omega) (outside _ (List.mem_map_of_mem listed))

theorem contains_single (s c : Char) : (CharSet.single s).contains c = (c == s) := by
  rw [Bool.eq_iff_iff, beq_iff_eq]
  simp only [CharSet.single, CharSet.contains, Bool.and_eq_true, decide_eq_true_eq]
  constructor
  · exact fun ⟨least, greatest⟩ => Char.le_antisymm greatest least
  · rintro rfl
    exact ⟨Char.le_refl _, Char.le_refl _⟩

theorem contains_anyCase {set : CharSet} (listed : s ∈ marks) (single : ∀ c, set.contains c = (c == s)) :
    (CharSet.anyCase set).contains c = (c == s) := by
  have orbits : (orbit c).any set.contains = true → c = s := by
    intro any
    obtain ⟨d, inOrbit, holds⟩ := List.any_eq_true.1 any
    rw [single, beq_iff_eq] at holds
    exact eq_of_mem_orbit listed (holds ▸ inOrbit)
  rw [Bool.eq_iff_iff, beq_iff_eq, CharSet.contains, Bool.or_eq_true, single, beq_iff_eq]
  exact ⟨fun either => either.elim id orbits, .inl⟩

@[simp] theorem contains_mark (listed : s ∈ marks) :
    (mark ignoreCase s).contains c = (c == s) := by
  cases ignoreCase with
  | false => exact contains_single s c
  | true => exact contains_anyCase listed (contains_single s)

@[simp] theorem contains_otherThan (listed : s ∈ marks) :
    (otherThan ignoreCase s).contains c = (c != s) := by
  have single (c : Char) : (CharSet.union .empty (.single s)).contains c = (c == s) := by
    rw [CharSet.contains, contains_single, CharSet.contains, Bool.false_or]
  cases ignoreCase with
  | false => exact congrArg not (single c)
  | true => exact congrArg not (contains_anyCase listed single)

/-! ## Expressions and works -/

section Works

variable (ignoreCase hashed : Bool)

/-- A string between two equal quotes. -/
def quotedRegex (quote : Char) : Regex :=
  .seq (.set (mark ignoreCase quote))
    (.seq (.repeated (.set (otherThan ignoreCase quote)) 0 none true) (.set (mark ignoreCase quote)))

/-- A string and the gap behind it. -/
def unitRegex : Regex :=
  .seq (.alt (quotedRegex ignoreCase '"') (quotedRegex ignoreCase '\''))
    (.repeated (.set (otherThan ignoreCase '}')) 0 none false)

/-- The end of a tag, in front of which a constant may have a hash mark. -/
def endRegex : Regex :=
  let brace := Regex.set (mark ignoreCase '}')
  if hashed then .seq (.repeated (.set (mark ignoreCase '#')) 0 (some 1) true) brace else brace

/-- What follows the first gap. -/
def restRegex : Regex :=
  .seq (.repeated (unitRegex ignoreCase) 0 none true) (endRegex ignoreCase hashed)

def outputRegex : Regex :=
  .seq (.set (mark ignoreCase '{')) (.seq (.set (mark ignoreCase (if hashed then '#' else '$')))
    (.seq (.repeated (.set (otherThan ignoreCase '}')) 1 none false)
      (restRegex ignoreCase hashed)))

/-- Where a thread is between strings. -/
inductive Gap where
  /-- In front of all of them. -/
  | first
  /-- Directly behind one. -/
  | behind
  /-- Farther behind it. -/
  | later

/-- The gap behind one more character. -/
def Gap.next : Gap → Gap
  | .first => .first
  | .behind | .later => .later

/-- What is left to match behind the gap that follows a string. -/
def unitsLeft : List Task :=
  [.again (unitRegex ignoreCase) true, .expect (endRegex ignoreCase hashed), .close 0]

/-- The works of a thread between strings. -/
def Gap.works : Gap → List Task
  | .first =>
    [.again (.set (otherThan ignoreCase '}')) false, .expect (restRegex ignoreCase hashed), .close 0]
  | .behind =>
    .expect (.repeated (.set (otherThan ignoreCase '}')) 0 none false) :: unitsLeft ignoreCase hashed
  | .later => .again (.set (otherThan ignoreCase '}')) false :: unitsLeft ignoreCase hashed

/-- The works behind an opening quote. -/
def openedWorks (quote : Char) : List Task :=
  .expect (.seq (.repeated (.set (otherThan ignoreCase quote)) 0 none true)
    (.set (mark ignoreCase quote))) :: Gap.works ignoreCase hashed .behind

/-- The works farther inside of a string. -/
def insideWorks (quote : Char) : List Task :=
  .again (.set (otherThan ignoreCase quote)) true :: .expect (.set (mark ignoreCase quote)) ::
    Gap.works ignoreCase hashed .behind

/-- The works behind a hash mark that may be the last one. -/
def hashWorks : List Task :=
  [.expect (.repeated (.set (mark ignoreCase '#')) 0 (some 0) true),
    .expect (.set (mark ignoreCase '}')), .close 0]

/-- What the works between strings wait for, in order of preference. -/
def Gap.waits (gap : Gap) : List (CharSet × List Task) :=
  [(mark ignoreCase '"', openedWorks ignoreCase hashed '"'),
    (mark ignoreCase '\'', openedWorks ignoreCase hashed '\'')] ++
  (if hashed then [(mark ignoreCase '#', hashWorks ignoreCase)] else []) ++
  [(mark ignoreCase '}', [.close 0]), (otherThan ignoreCase '}', gap.next.works ignoreCase hashed)]

theorem expand_gap (gap : Gap) :
    (expand 20 [gap.works ignoreCase hashed] []).map Prod.fst = some (gap.waits ignoreCase hashed) := by
  cases gap <;> revert ignoreCase hashed <;> decide +kernel

/-- What the works wait for behind a hash mark that may be the last one. -/
def Gap.hashWaits (gap : Gap) : List (CharSet × List Task) :=
  [(mark ignoreCase '}', [.close 0]), (mark ignoreCase '"', openedWorks ignoreCase true '"'),
    (mark ignoreCase '\'', openedWorks ignoreCase true '\''),
    (mark ignoreCase '#', hashWorks ignoreCase),
    (otherThan ignoreCase '}', gap.next.works ignoreCase true)]

theorem expand_hash (gap : Gap) :
    (expand 20 [hashWorks ignoreCase, gap.works ignoreCase true] []).map Prod.fst =
      some (gap.hashWaits ignoreCase) := by
  cases gap <;> revert ignoreCase <;> decide +kernel

theorem expand_string (quote : Char) (quoted : isQuote quote = true) :
    ∀ works ∈ [openedWorks ignoreCase hashed quote, insideWorks ignoreCase hashed quote],
      (expand 20 [works] []).map Prod.fst =
        some [(otherThan ignoreCase quote, insideWorks ignoreCase hashed quote),
          (mark ignoreCase quote, Gap.works ignoreCase hashed .behind)] := by
  obtain rfl | rfl : quote = '"' ∨ quote = '\'' := by simpa [isQuote] using quoted
  · revert ignoreCase hashed
    decide +kernel
  · revert ignoreCase hashed
    decide +kernel

end Works

/-! ## From character to character -/

theorem weight_outputRegex (ignoreCase hashed : Bool) :
    20 ≤ 2 * (outputRegex ignoreCase hashed).weight + 7 := by
  revert ignoreCase hashed
  decide

@[simp] theorem follow_nil (c : Char) : follow [] c = [] := rfl

theorem follow_cons (wait : CharSet × List Task) (waits : List (CharSet × List Task)) (c : Char) :
    follow (wait :: waits) c =
      if wait.1.contains c then wait.2 :: follow waits c else follow waits c := by
  by_cases reads : wait.1.contains c = true <;> simp [follow, reads]

/-- The works that lead between strings; `afterHash` tells whether a hash mark that may be
    the last one stands in front. -/
def leadingWorks (ignoreCase hashed afterHash : Bool) (gap : Gap) : List (List Task) :=
  (if afterHash then [hashWorks ignoreCase] else []) ++ [gap.works ignoreCase hashed]

/-- The works that lead behind a character between strings. -/
def worksBehind (ignoreCase hashed : Bool) (gap : Gap) (c : Char) : List (List Task) :=
  if c = '}' then [[.close 0]]
  else (if isQuote c then [openedWorks ignoreCase hashed c] else []) ++
    leadingWorks ignoreCase hashed (hashed && c == '#') gap.next

/-- The characters that are read between strings in a way of their own. -/
def gapMarks : List Char := ['}', '"', '\'', '#']

theorem follow_gapMarks (gap : Gap) (isMark : c ∈ gapMarks) :
    follow (gap.waits ignoreCase hashed) c = worksBehind ignoreCase hashed gap c ∧
      follow (gap.hashWaits ignoreCase) c = worksBehind ignoreCase true gap c := by
  simp only [gapMarks, List.mem_cons, List.not_mem_nil, or_false] at isMark
  rcases isMark with rfl | rfl | rfl | rfl <;> cases gap <;> revert ignoreCase hashed <;> decide +kernel

/-- Any other character belongs to the gap. -/
theorem follow_plain (gap : Gap) (plain : c ∉ gapMarks) :
    follow (gap.waits ignoreCase hashed) c = worksBehind ignoreCase hashed gap c ∧
      follow (gap.hashWaits ignoreCase) c = worksBehind ignoreCase true gap c := by
  have unread (s : Char) (listed : s ∈ gapMarks) : (mark ignoreCase s).contains c = false := by
    have inMarks : ∀ s ∈ gapMarks, s ∈ marks := by simp [gapMarks, marks]
    rw [contains_mark (inMarks s listed), beq_eq_false_iff_ne]
    rintro rfl
    exact plain listed
  have listed : '}' ∈ gapMarks ∧ '"' ∈ gapMarks ∧ '\'' ∈ gapMarks ∧ '#' ∈ gapMarks := by decide
  obtain ⟨brace, double, single, number⟩ := listed
  have read : (otherThan ignoreCase '}').contains c = true := by
    rw [contains_otherThan (by decide), bne_iff_ne]
    rintro rfl
    exact plain brace
  have behind (hashed : Bool) :
      worksBehind ignoreCase hashed gap c = [gap.next.works ignoreCase hashed] := by
    simp only [gapMarks, List.mem_cons, List.not_mem_nil, or_false, not_or] at plain
    simp [worksBehind, leadingWorks, isQuote, plain]
  rw [behind, behind, Gap.waits, Gap.hashWaits]
  constructor
  · cases hashed <;>
      simp [follow_cons, unread _ brace, unread _ double, unread _ single, unread _ number, read]
  · simp [follow_cons, unread _ brace, unread _ double, unread _ single, unread _ number, read]

/-- Between strings the leading works wait for something, and what they are behind a
    character does not depend on a hash mark in front. -/
theorem exists_expand_leadingWorks {afterHash : Bool} (hash : afterHash = true → hashed = true)
    (gap : Gap) :
    ∃ waits, (expand 20 (leadingWorks ignoreCase hashed afterHash gap) []).map Prod.fst = some waits ∧
      waits ≠ [] ∧ ∀ c, follow waits c = worksBehind ignoreCase hashed gap c := by
  have follows (c : Char) : follow (gap.waits ignoreCase hashed) c = worksBehind ignoreCase hashed gap c ∧
      follow (gap.hashWaits ignoreCase) c = worksBehind ignoreCase true gap c := by
    by_cases isMark : c ∈ gapMarks
    · exact follow_gapMarks gap isMark
    · exact follow_plain gap isMark
  cases afterHash with
  | false =>
    exact ⟨_, expand_gap ignoreCase hashed gap, by simp [Gap.waits], fun c => (follows c).1⟩
  | true =>
    obtain rfl := hash rfl
    exact ⟨_, expand_hash ignoreCase gap, by simp [Gap.hashWaits], fun c => (follows c).2⟩

theorem Prevails.gap {afterHash : Bool} (hash : afterHash = true → hashed = true) (gap : Gap)
    (later : Prevails (outputRegex ignoreCase hashed) (worksBehind ignoreCase hashed gap c) text) :
    Prevails (outputRegex ignoreCase hashed) (leadingWorks ignoreCase hashed afterHash gap)
      (c :: text) := by
  obtain ⟨waits, expanded, going, follows⟩ := exists_expand_leadingWorks hash gap
  have enough := weight_outputRegex ignoreCase hashed
  exact .cons expanded (by omega) going ((follows c).symm ▸ later)

/-- Inside of a string the threads that go on to its end lead. -/
theorem Prevails.string (quoted : isQuote quote = true) (closed : quote ∉ inside)
    (later : Prevails (outputRegex ignoreCase hashed) [Gap.works ignoreCase hashed .behind] text) :
    ∀ works ∈ [openedWorks ignoreCase hashed quote, insideWorks ignoreCase hashed quote],
      Prevails (outputRegex ignoreCase hashed) [works] (inside ++ quote :: text) := by
  have listed : quote ∈ marks := by
    obtain rfl | rfl : quote = '"' ∨ quote = '\'' := by simpa [isQuote] using quoted
    · decide
    · decide
  have enough := weight_outputRegex ignoreCase hashed
  induction inside with
  | nil =>
    intro works either
    have expanded := expand_string ignoreCase hashed quote quoted works either
    refine .cons expanded (by omega) (by simp) ?_
    simpa [follow_cons, listed] using later
  | cons c inside ih =>
    rw [List.mem_cons, not_or] at closed
    have other : c ≠ quote := Ne.symm closed.1
    intro works either
    have expanded := expand_string ignoreCase hashed quote quoted works either
    refine .cons expanded (by omega) (by simp) ?_
    have farther := ih closed.2 (insideWorks ignoreCase hashed quote) (by simp)
    simpa [follow_cons, listed, other] using farther

/-- The leading threads match what a candidate goes on with, up to its end: between
    strings by induction on its units, plain characters and strings. -/
theorem prevails_leadingWorks (tail : text ∈ candidateTails) :
    ∀ afterHash, (afterHash = true → hashed = true) → ∀ gap,
      Prevails (outputRegex ignoreCase hashed) (leadingWorks ignoreCase hashed afterHash gap)
        text := by
  refine candidateTails_induction (motive := fun text =>
    ∀ afterHash, (afterHash = true → hashed = true) → ∀ gap,
      Prevails (outputRegex ignoreCase hashed) (leadingWorks ignoreCase hashed afterHash gap) text)
    ?closing ?plain ?string tail
  case closing =>
    intro afterHash hash gap
    refine .gap hash gap ?_
    rw [worksBehind, if_pos rfl]
    exact .closed
  case plain =>
    intro c text noQuote noBrace ih afterHash hash gap
    refine .gap hash gap ?_
    rw [worksBehind, if_neg noBrace, noQuote]
    exact ih (hashed && c == '#') (fun both => (Bool.and_eq_true_iff.1 both).1) gap.next
  case string =>
    intro quote inside text quoted closed ih afterHash hash gap
    have noBrace : quote ≠ '}' := by
      rintro rfl
      cases quoted
    refine .gap hash gap ?_
    -- The thread that opens a string leads the one to which the quote belongs to the gap.
    rw [worksBehind, if_neg noBrace, if_pos quoted]
    have behind : Prevails (outputRegex ignoreCase hashed) [Gap.works ignoreCase hashed .behind] text :=
      ih false (by simp) .behind
    exact (Prevails.string quoted closed behind _ (.head _)).append _

/-! ## From the beginning -/

/-- The works behind the opening brace, and those behind the sigil. -/
def sigilWorks (ignoreCase hashed : Bool) : List Task :=
  [.expect (.seq (.set (mark ignoreCase (if hashed then '#' else '$')))
    (.seq (.repeated (.set (otherThan ignoreCase '}')) 1 none false) (restRegex ignoreCase hashed))),
    .close 0]

def firstWorks (ignoreCase hashed : Bool) : List Task :=
  [.expect (.seq (.repeated (.set (otherThan ignoreCase '}')) 1 none false)
    (restRegex ignoreCase hashed)), .close 0]

theorem expand_opening (ignoreCase hashed : Bool) :
    (expand 20 [[.expect (outputRegex ignoreCase hashed), .close 0]]
        [[.expect (.group 0 (outputRegex ignoreCase hashed))]]).map Prod.fst =
      some [(mark ignoreCase '{', sigilWorks ignoreCase hashed)] ∧
    (expand 20 [sigilWorks ignoreCase hashed] []).map Prod.fst =
      some [(mark ignoreCase (if hashed then '#' else '$'), firstWorks ignoreCase hashed)] ∧
    (expand 20 [firstWorks ignoreCase hashed] []).map Prod.fst =
      some [(otherThan ignoreCase '}', Gap.works ignoreCase hashed .first)] := by
  revert ignoreCase hashed
  decide +kernel

/-- The pattern finds all of a tag whose first character is no brace. -/
theorem find?_outputRegex (ignoreCase hashed : Bool) (tail : text ∈ candidateTails) (noBrace : c ≠ '}')
    (groups : List (Option (List Char))) :
    (Pattern.mk (outputRegex ignoreCase hashed) groups).find?
        ('{' :: (if hashed then '#' else '$') :: c :: text) 0 =
      some ⟨[(1, text.length + 3), (0, 0)]⟩ := by
  have listed : '{' ∈ marks ∧ (if hashed then '#' else '$') ∈ marks ∧ '}' ∈ marks := by
    cases hashed <;> decide
  obtain ⟨brace, sigil, closing⟩ := listed
  have enough := weight_outputRegex ignoreCase hashed
  obtain ⟨opening, second, third⟩ := expand_opening ignoreCase hashed
  have gap : Prevails (outputRegex ignoreCase hashed) [Gap.works ignoreCase hashed .first] text :=
    prevails_leadingWorks tail false (by simp) .first
  have fromFirst : Prevails (outputRegex ignoreCase hashed) [firstWorks ignoreCase hashed]
      (c :: text) := by
    refine .cons third (by omega) (by simp) ?_
    simpa [follow_cons, closing, noBrace] using gap
  have fromSigil : Prevails (outputRegex ignoreCase hashed) [sigilWorks ignoreCase hashed]
      ((if hashed then '#' else '$') :: c :: text) := by
    refine .cons second (by omega) (by simp) ?_
    simpa [follow_cons, sigil] using fromFirst
  refine find?_of_prevails opening enough ?_
  simpa [follow_cons, brace] using fromSigil

end Stencil.Pattern

namespace Stencil.Tag

open Stencil.Pattern
open Stencil.Template

/-- The pattern of the tags that print a value, as it is written. -/
def outputPattern (ignoreCase : Bool) (kind : TagKind) : List Char :=
  (if ignoreCase then "(?i)".toList else []) ++
    if kind = .constantTag then
      "\\\x7b#[^\x7d]+?(?:(?:\"[^\"]*\"|'[^']*')[^\x7d]*?)*#?\\\x7d".toList
    else "\\\x7b\\$[^\x7d]+?(?:(?:\"[^\"]*\"|'[^']*')[^\x7d]*?)*\\\x7d".toList

/-- The character behind the opening brace. -/
def TagKind.sigil (kind : TagKind) : Char := if kind = .constantTag then '#' else '$'

theorem read_outputPattern (ignoreCase : Bool) {kind : TagKind} (prints : kind.printsValue = true) :
    Pattern.read (outputPattern ignoreCase kind) =
      .ok ⟨outputRegex ignoreCase (kind == .constantTag), [none]⟩ := by
  cases kind with
  | variableTag | constantTag => cases ignoreCase <;> rfl
  | _ => cases prints

/-- Behind a character that opens no string, the rest of a candidate is all that its
    closing brace leaves open. -/
theorem candidate_tail {sigil first : Char} {rest text : List Char}
    (split : text = '{' :: sigil :: first :: rest) (cut : candidate? text = some (text, []))
    (noQuote : isQuote first = false) (noBrace : first ≠ '}') :
    ∃ inner, rest = inner ++ ['}'] ∧ openQuote none inner = none ∧ AllQuoted none inner := by
  obtain ⟨_, inner, candidate⟩ := isCandidate_of_candidate? cut
  have whole := candidate.text_eq
  rw [split] at whole
  obtain ⟨rfl, tails⟩ := List.cons.inj (List.cons.inj whole).2
  cases inner with
  | nil => exact absurd (List.cons.inj tails).1 noBrace
  | cons c inner =>
    obtain ⟨rfl, rfl⟩ := List.cons.inj tails
    have next : nextQuote none first = none := by simp [nextQuote, noQuote]
    have closed := candidate.closed
    have quoted := (allQuoted_cons.1 candidate.quoted).2
    rw [openQuote_cons, next] at closed
    rw [next] at quoted
    exact ⟨inner, rfl, closed, quoted⟩

/-- In a candidate that begins with the sigil of a kind that prints a value and then has
    neither a quote nor a closing brace, the first match of the pattern of the kind is
    the whole candidate, and so is the tag that is found by its shape, in both modes of
    letter case. -/
theorem outputPattern_candidate (ignoreCase : Bool) (kind : TagKind)
    (prints : kind.printsValue = true) (first : Char) (rest text : List Char)
    (split : text = '{' :: kind.sigil :: first :: rest)
    (cut : candidate? text = some (text, [])) (noQuote : isQuote first = false)
    (noBrace : first ≠ '}') :
    (∃ pattern found, Pattern.read (outputPattern ignoreCase kind) = .ok pattern ∧
      pattern.find? text 0 = some found ∧ found.start = 0 ∧ found.stop = text.length) ∧
    kind.find? ignoreCase text = some ⟨kind, [], [.fixed text]⟩ := by
  obtain ⟨inner, rfl, closed, quoted⟩ := candidate_tail split cut noQuote noBrace
  have closes : closeCandidate none (inner ++ ['}']) = some (inner ++ ['}'], []) :=
    closeCandidate_of_allQuoted closed quoted
  constructor
  · have found := find?_outputRegex ignoreCase (kind == .constantTag) (mem_of_closeCandidate closes)
      noBrace [none]
    have sigil : (if (kind == .constantTag) = true then '#' else '$') = kind.sigil := by
      simp [TagKind.sigil]
    rw [sigil, ← split] at found
    refine ⟨_, _, read_outputPattern ignoreCase prints, found, rfl, ?_⟩
    rw [split]
    rfl
  · have recognised : kind.recognise? ignoreCase text = some [.fixed text] := by
      cases kind with
      | variableTag | constantTag =>
        rw [split]
        simp [TagKind.recognise?, TagKind.sigil, output?, noBrace,
          closeOutput?_of_allQuoted closed quoted]
      | _ => cases prints
    rw [split] at recognised ⊢
    simp [TagKind.find?, findFirst?, recognised]

/-- A constant of several lines, with braces and quotes in strings of both kinds, and with
    hash marks in front of both of its quotes and of its end. -/
theorem outputPattern_candidate_mixed :
    let rest := " #\"\x7d'\"\n#'\x7d\"'##\x7d".toList
    let text := '{' :: TagKind.constantTag.sigil :: 'K' :: rest
    TagKind.constantTag.printsValue = true ∧ candidate? text = some (text, []) ∧
    (∃ pattern found, Pattern.read (outputPattern true .constantTag) = .ok pattern ∧
      pattern.find? text 0 = some found ∧ found.start = 0 ∧ found.stop = text.length) ∧
    TagKind.constantTag.find? true text = some ⟨.constantTag, [], [.fixed text]⟩ := by
  intro rest text
  have cut : candidate? text = some (text, []) := by decide
  exact ⟨rfl, cut,
    outputPattern_candidate true .constantTag rfl 'K' rest text rfl cut (by decide) (by decide)⟩

end Stencil.Tag
