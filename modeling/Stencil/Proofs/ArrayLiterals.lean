import Stencil.Proofs.JsonText
import Stencil.Proofs.XmlDeclarations

/-! # Array literals

A custom tag hands the matches of its pattern to the host as an array of arrays of
strings.  The host reads such a literal by its grammar: an entry is a key, an arrow
and a value, entries stand between commas, and a comma may stand behind the last.
What is read are the groups in their order, each under its name if it has one and
then under its number, with their values in order.

* `Literal` — strings and arrays as the host reads them;
* `readLiteral?` — a literal at the start of a text;
* `Writes` — texts of one entry;
* `matchesLiteral` — what the matches of a tag are read as;
* `readLiteral?_exportMatches` — they are read as that, whatever they hold.
-/

namespace Stencil.Php

open Stencil.Json (skipBlanks readDigits? skipBlanks_append skipBlanks_cons IsBlank
  readDigits?_decimal NoDigitAhead noDigitAhead_cons)
open Stencil.Program (Instruction)
open Stencil.Tag (CaptureGroup TagMatches)
open Stencil.Text (decimal)

/-! ## Reading literals -/

/-- The key of an array entry. -/
inductive Key where
  | index (n : Nat)
  | name (text : List Char)
  deriving DecidableEq, Repr

/-- A string, or an array with its entries in the order they are written in. -/
inductive Literal where
  | string (value : List Char)
  | array (entries : List (Key × Literal))

/-- Reads a key.  A number has no zeros in front. -/
def readKey? : List Char → Option (Key × List Char)
  | '\'' :: rest => (readSingle? rest).map fun (text, after) => (.name text, after)
  | text => do
    let (n, after) ← readDigits? text
    if decimal n ++ after = text then some (.index n, after) else none

mutual

/-- Reads a literal.  Every nested read starts later, so `rounds` need not exceed the
    length of the text. -/
def readLiteralIn? : (rounds : Nat) → List Char → Option (Literal × List Char)
  | 0, _ => none
  | rounds + 1, text =>
    match skipBlanks text with
    | '\'' :: rest => (readSingle? rest).map fun (value, after) => (.string value, after)
    | 'a' :: 'r' :: 'r' :: 'a' :: 'y' :: rest =>
      match skipBlanks rest with
      | '(' :: rest => (readEntries? rounds rest).map fun (entries, after) => (.array entries, after)
      | _ => none
    | _ => none

/-- Reads the entries of an array up to its closing parenthesis. -/
def readEntries? : (rounds : Nat) → List Char → Option (List (Key × Literal) × List Char)
  | 0, _ => none
  | rounds + 1, text =>
    match skipBlanks text with
    | ')' :: after => some ([], after)
    | text => do
      let (key, rest) ← readKey? text
      match skipBlanks rest with
      | '=' :: '>' :: rest => do
        let (value, rest) ← readLiteralIn? rounds rest
        match skipBlanks rest with
        | ')' :: after => return ([(key, value)], after)
        | ',' :: rest => do
          let (entries, after) ← readEntries? rounds rest
          return ((key, value) :: entries, after)
        | _ => none
      | _ => none

end

/-- Reads a literal at the start of a text, and gives what follows it. -/
def readLiteral? (text : List Char) : Option (Literal × List Char) :=
  readLiteralIn? (text.length + 1) text

section Reading

variable {text indent gap key value after : List Char} {name : Key} {literal : Literal}
  {rounds : Nat}

theorem readEntries?_skip (blank : ∀ c ∈ indent, IsBlank c) (rounds : Nat) (text : List Char) :
    readEntries? rounds (indent ++ text) = readEntries? rounds text := by
  cases rounds with
  | zero => simp only [readEntries?]
  | succ rounds => simp only [readEntries?, skipBlanks_append blank]

theorem readLiteralIn?_skip (blank : ∀ c ∈ gap, IsBlank c) (rounds : Nat) (text : List Char) :
    readLiteralIn? rounds (gap ++ text) = readLiteralIn? rounds text := by
  cases rounds with
  | zero => simp only [readLiteralIn?]
  | succ rounds => simp only [readLiteralIn?, skipBlanks_append blank]

theorem readEntries?_closing (rounds : Nat) (after : List Char) :
    readEntries? (rounds + 1) (')' :: after) = some ([], after) := by
  simp only [readEntries?, skipBlanks_cons (c := ')') (by simp [IsBlank])]

theorem readLiteralIn?_string (rounds : Nat) (value after : List Char) :
    readLiteralIn? (rounds + 1) ('\'' :: (quoteSingle value ++ '\'' :: after)) =
      some (.string value, after) := by
  rw [readLiteralIn?, skipBlanks_cons (by simp [IsBlank])]
  simp [readSingle?_quoteSingle]

theorem readLiteralIn?_array (rounds : Nat) (text : List Char) :
    readLiteralIn? (rounds + 1) ("array (".toList ++ text) =
      (readEntries? rounds text).map fun (entries, after) => (.array entries, after) := by
  have word : skipBlanks ("array (".toList ++ text) = "array (".toList ++ text :=
    skipBlanks_cons (c := 'a') (by simp [IsBlank]) _
  have opening : skipBlanks (' ' :: '(' :: text) = '(' :: text := by
    rw [← skipBlanks_cons (c := '(') (by simp [IsBlank]) text]
    have blank : ∀ c ∈ [' '], IsBlank c := by simp [IsBlank]
    exact skipBlanks_append blank _
  rw [readLiteralIn?, word]
  simp [opening]

theorem readKey?_name (text after : List Char) :
    readKey? ('\'' :: (quoteSingle text ++ '\'' :: after)) = some (.name text, after) := by
  simp [readKey?, readSingle?_quoteSingle]

theorem readKey?_index (n : Nat) (stops : NoDigitAhead after) :
    readKey? (decimal n ++ after) = some (.index n, after) := by
  obtain ⟨c, digits, split, digit⟩ := Json.exists_decimal n
  have read := readDigits?_decimal n stops
  rw [readKey?.eq_2 _ (fun rest quote => ?_), read]
  · simp
  · rw [split] at quote
    obtain ⟨rfl, -⟩ := List.cons.inj quote
    cases digit

/-! ## Entries -/

/-- A text that is read as a literal, whatever follows it. -/
def Spells (text : List Char) (literal : Literal) : Prop :=
  ∀ rounds after, text.length ≤ rounds →
    readLiteralIn? rounds (text ++ after) = some (literal, after)

/-- A text that is read as entries, in front of those that follow it. -/
def Writes (text : List Char) (entries : List (Key × Literal)) : Prop :=
  ∀ need after more rest, (∀ rounds, need ≤ rounds → readEntries? rounds after = some (more, rest)) →
    ∀ rounds, text.length + need ≤ rounds →
      readEntries? rounds (text ++ after) = some (entries ++ more, rest)

variable {entries : List (Key × Literal)}

theorem writes_nil : Writes [] [] := fun _ _ _ _ later rounds enough =>
  later rounds (by simpa using enough)

theorem Writes.append {left right : List Char} {first second : List (Key × Literal)}
    (writes : Writes left first) (others : Writes right second) :
    Writes (left ++ right) (first ++ second) := by
  intro need after more rest later rounds enough
  rw [List.length_append, Nat.add_assoc] at enough
  rw [List.append_assoc, List.append_assoc]
  exact writes _ _ _ _ (others _ _ _ _ later) rounds enough

theorem writes_flatMap {α : Type} {write : α → List Char} {entry : α → List (Key × Literal)}
    (each : ∀ item, Writes (write item) (entry item)) (items : List α) :
    Writes (items.flatMap write) (items.flatMap entry) := by
  induction items with
  | nil => exact writes_nil
  | cons item items ih => exact (each item).append ih

theorem spells_string (value : List Char) :
    Spells ('\'' :: (quoteSingle value ++ ['\''])) (.string value) := by
  intro rounds after enough
  obtain _ | rounds := rounds
  · simp at enough
  · simpa using readLiteralIn?_string rounds value after

theorem Writes.spells (writes : Writes text entries) (indented : ∀ c ∈ indent, IsBlank c) :
    Spells ("array (\n".toList ++ (text ++ (indent ++ [')']))) (.array entries) := by
  intro rounds after enough
  have closing : ∀ rounds, 1 ≤ rounds →
      readEntries? rounds (indent ++ ')' :: after) = some ([], after) := by
    intro rounds positive
    obtain ⟨rounds, rfl⟩ := Nat.exists_eq_add_of_le' positive
    rw [readEntries?_skip indented, readEntries?_closing]
  have opening : "array (\n".toList ++ (text ++ (indent ++ [')'])) ++ after =
      "array (".toList ++ (['\n'] ++ (text ++ (indent ++ ')' :: after))) := by
    simp
  obtain _ | rounds := rounds
  · simp at enough
  have fits : text.length + 1 ≤ rounds := by
    simp only [List.length_append, String.length_toList, List.length_cons] at enough
    have : "array (\n".length = 8 := rfl
    omega
  rw [opening, readLiteralIn?_array, readEntries?_skip (by simp [IsBlank]),
    writes _ _ _ _ closing rounds fits]
  simp

/-- A key, an arrow, a value and a comma are an entry, with blanks between them. -/
theorem Spells.writes (spells : Spells value literal)
    (first : ∃ c rest, key = c :: rest ∧ ¬ IsBlank c ∧ c ≠ ')')
    (keyed : ∀ after, readKey? (key ++ ' ' :: after) = some (name, ' ' :: after))
    (indented : ∀ c ∈ indent, IsBlank c) (spaced : ∀ c ∈ gap, IsBlank c) :
    Writes (indent ++ (key ++ (" =>".toList ++ (gap ++ (value ++ ",\n".toList)))))
      [(name, literal)] := by
  intro need after more rest later rounds enough
  obtain ⟨c, letters, rfl, solid, notClosing⟩ := first
  obtain _ | rounds := rounds
  · simp at enough
  simp only [List.length_append, List.length_cons] at enough
  have read := spells rounds (',' :: '\n' :: after) (by omega)
  have others : readEntries? rounds ('\n' :: after) = some (more, rest) := by
    have blank : ∀ c ∈ ['\n'], IsBlank c := by simp [IsBlank]
    rw [← later rounds (by omega)]
    exact readEntries?_skip blank rounds after
  have comma := skipBlanks_cons (c := ',') (by simp [IsBlank]) ('\n' :: after)
  have arrow (text : List Char) : skipBlanks (' ' :: '=' :: '>' :: text) = '=' :: '>' :: text := by
    have blank : ∀ c ∈ [' '], IsBlank c := by simp [IsBlank]
    rw [← skipBlanks_cons (c := '=') (by simp [IsBlank]) ('>' :: text)]
    exact skipBlanks_append blank _
  have start := keyed ('=' :: '>' :: (gap ++ (value ++ ',' :: '\n' :: after)))
  simp only [List.cons_append] at start
  simp only [List.append_assoc, List.cons_append]
  rw [readEntries?_skip indented, readEntries?, skipBlanks_cons solid]
  split
  · rename_i closing
    exact absurd (List.cons.inj closing).1 notClosing
  · simp [start, arrow, readLiteralIn?_skip spaced, read, comma, others]

end Reading

/-! ## The matches of a tag -/

/-- The values of a group as the host reads them. -/
def valuesLiteral (values : List (List Char)) : Literal :=
  .array (values.zipIdx.flatMap fun (value, index) => [(.index index, .string value)])

/-- The entries of a group: under its name, if it has one, and under its number. -/
def groupEntries (group : CaptureGroup) (index : Nat) : List (Key × Literal) :=
  match group.name with
  | some name => [(.name name, valuesLiteral group.values), (.index index, valuesLiteral group.values)]
  | none => [(.index index, valuesLiteral group.values)]

/-- The matches of a custom tag as the host reads them. -/
def matchesLiteral (tagMatches : TagMatches) : Literal :=
  .array (tagMatches.groups.zipIdx.flatMap fun (group, index) => groupEntries group index)

section Matches

variable {value : List Char} {literal : Literal}

/-- An entry under a number. -/
theorem Spells.writes_index (spells : Spells value literal) (index : Nat) {indent gap : List Char}
    (indented : ∀ c ∈ indent, IsBlank c) (spaced : ∀ c ∈ gap, IsBlank c) :
    Writes (indent ++ (decimal index ++ (" =>".toList ++ (gap ++ (value ++ ",\n".toList)))))
      [(.index index, literal)] := by
  obtain ⟨c, digits, split, digit⟩ := Json.exists_decimal index
  have solid := Json.not_isBlank_of_isDigit digit
  have notClosing : c ≠ ')' := by
    rintro rfl
    cases digit
  exact spells.writes ⟨c, digits, split, solid, notClosing⟩
    (fun after => readKey?_index index (noDigitAhead_cons rfl after)) indented spaced

/-- An entry under a name. -/
theorem Spells.writes_name (spells : Spells value literal) (name : List Char)
    {indent gap : List Char} (indented : ∀ c ∈ indent, IsBlank c) (spaced : ∀ c ∈ gap, IsBlank c) :
    Writes (indent ++ ('\'' :: (quoteSingle name ++ ['\'']) ++
      (" =>".toList ++ (gap ++ (value ++ ",\n".toList))))) [(.name name, literal)] := by
  refine spells.writes ⟨'\'', _, rfl, by simp [IsBlank], by decide⟩ ?_ indented spaced
  intro after
  simpa using readKey?_name name (' ' :: after)

theorem writes_value (value : List Char) (index : Nat) :
    Writes ("    ".toList ++ decimal index ++ " => '".toList ++ quoteSingle value ++ "',\n".toList)
      [(.index index, .string value)] := by
  have indented : ∀ c ∈ "    ".toList, IsBlank c := by simp [IsBlank]
  have spaced : ∀ c ∈ [' '], IsBlank c := by simp [IsBlank]
  simpa using (spells_string value).writes_index index indented spaced

theorem writes_values (values : List (List Char)) :
    Writes (values.zipIdx.flatMap fun (value, index) =>
        "    ".toList ++ decimal index ++ " => '".toList ++ quoteSingle value ++ "',\n".toList)
      (values.zipIdx.flatMap fun (value, index) => [(.index index, .string value)]) :=
  writes_flatMap (fun (value, index) => writes_value value index) _

theorem spells_values (values : List (List Char)) : ∃ text, Spells text (valuesLiteral values) ∧
    exportValues values = "  ".toList ++ (text ++ ",\n".toList) := by
  have indented : ∀ c ∈ "  ".toList, IsBlank c := by simp [IsBlank]
  have opening : "  array (\n".toList = "  ".toList ++ "array (\n".toList := rfl
  have closing : "  ),\n".toList = "  ".toList ++ ([')'] ++ ",\n".toList) := rfl
  refine ⟨_, (writes_values values).spells indented, ?_⟩
  unfold exportValues
  simp only [opening, closing, List.append_assoc]

theorem writes_group (group : CaptureGroup) (index : Nat) :
    Writes (exportGroup group index) (groupEntries group index) := by
  obtain ⟨text, spells, written⟩ := spells_values group.values
  have indented : ∀ c ∈ "  ".toList, IsBlank c := by simp [IsBlank]
  have spaced : ∀ c ∈ " \n".toList ++ "  ".toList, IsBlank c := by simp [IsBlank]
  have arrow : " => \n".toList = " =>".toList ++ " \n".toList := rfl
  have numbered := spells.writes_index index indented spaced
  unfold exportGroup groupEntries
  cases group.name with
  | none => simpa only [written, arrow, List.append_assoc, List.nil_append] using numbered
  | some name =>
    have quoted : "  '".toList = "  ".toList ++ ['\''] := rfl
    have closed : "' => \n".toList = ['\''] ++ (" =>".toList ++ " \n".toList) := rfl
    have both := (spells.writes_name name indented spaced).append numbered
    simp only [written, arrow, quoted, closed, List.append_assoc, List.cons_append,
      List.nil_append] at both ⊢
    exact both

theorem writes_groups (groups : List CaptureGroup) :
    Writes (groups.zipIdx.flatMap fun (group, index) => exportGroup group index)
      (groups.zipIdx.flatMap fun (group, index) => groupEntries group index) :=
  writes_flatMap (fun (group, index) => writes_group group index) _

theorem spells_matches (tagMatches : TagMatches) :
    Spells (exportMatches tagMatches) (matchesLiteral tagMatches) := by
  have indented : ∀ c ∈ ([] : List Char), IsBlank c := by simp
  have all := (writes_groups tagMatches.groups).spells indented
  unfold exportMatches matchesLiteral
  simpa only [List.append_assoc, List.nil_append] using all

/-! ## Texts between quotes -/

/-- A text in single quotes, with backslashes in front of its own quotes and
    backslashes. -/
def quoted (text : List Char) : List Char := '\'' :: (quoteSingle text ++ ['\''])

/-- The names and values in the matches of a tag. -/
def IsMatchText (tagMatches : TagMatches) (text : List Char) : Prop :=
  ∃ group ∈ tagMatches.groups, group.name = some text ∨ text ∈ group.values

theorem infix_flatMap_zipIdx {α : Type} {item : α} {items : List α} {part : List Char}
    {write : α × Nat → List Char} (listed : item ∈ items)
    (inside : ∀ index, part <:+: write (item, index)) : part <:+: items.zipIdx.flatMap write := by
  obtain ⟨index, found⟩ := List.mem_iff_getElem?.1 listed
  have indexed : (item, index) ∈ items.zipIdx := List.mem_zipIdx_iff_getElem?.2 found
  have whole := List.infix_of_mem_flatten (List.mem_map_of_mem (f := write) indexed)
  exact (inside index).trans (List.flatMap_def ▸ whole)

theorem quoted_infix_exportValues {values : List (List Char)} (listed : value ∈ values) :
    quoted value <:+: exportValues values := by
  refine List.IsInfix.trans ?_ (List.infix_append _ _ _)
  apply infix_flatMap_zipIdx listed
  intro index
  refine ⟨"    ".toList ++ decimal index ++ " => ".toList, ",\n".toList, ?_⟩
  have before : " => '".toList = " => ".toList ++ ['\''] := rfl
  have behind : "',\n".toList = '\'' :: ",\n".toList := rfl
  simp only [quoted, before, behind, List.append_assoc, List.cons_append, List.nil_append]

theorem quoted_infix_exportGroup {group : CaptureGroup} {text : List Char} (index : Nat)
    (listed : group.name = some text ∨ text ∈ group.values) :
    quoted text <:+: exportGroup group index := by
  unfold exportGroup
  rcases listed with named | inValues
  · have before : "  '".toList = "  ".toList ++ ['\''] := rfl
    have behind : "' => \n".toList = '\'' :: " => \n".toList := rfl
    rw [named]
    refine ⟨"  ".toList, " => \n".toList ++ exportValues group.values ++ ("  ".toList ++
      decimal index ++ " => \n".toList ++ exportValues group.values), ?_⟩
    simp only [quoted, before, behind, List.append_assoc, List.cons_append, List.nil_append]
  · exact (quoted_infix_exportValues inValues).trans (List.suffix_append _ _).isInfix

theorem quoted_infix_exportMatches {tagMatches : TagMatches} {text : List Char}
    (isText : IsMatchText tagMatches text) : quoted text <:+: exportMatches tagMatches := by
  obtain ⟨group, listed, inGroup⟩ := isText
  refine List.IsInfix.trans ?_ (List.infix_append _ _ _)
  exact infix_flatMap_zipIdx listed fun index => quoted_infix_exportGroup index inGroup

/-- The call written for a custom tag names the tag and hands it its matches.  Each
    name and each value stands between quotes that end it at its last character, and
    the matches are read as their groups in order, whatever follows them. -/
theorem customTag_reads (name : List Char) (tagMatches : TagMatches) :
    instruction (.customTag name tagMatches) =
        "<?php echo call_user_func( static::$registered_tags[".toList ++ (quoted name ++
          ("]['function'], ".toList ++ (exportMatches tagMatches ++ " ); ?>".toList))) ∧
      (∀ text, IsMatchText tagMatches text → quoted text <:+: exportMatches tagMatches) ∧
      (∀ text, text = name ∨ IsMatchText tagMatches text → ∀ after,
        readSingle? ((quoted text).tail ++ after) = some (text, after)) ∧
      ∀ after, readLiteral? (exportMatches tagMatches ++ after) =
        some (matchesLiteral tagMatches, after) := by
  refine ⟨?_, fun _ => quoted_infix_exportMatches, ?_, ?_⟩
  · have opening : "<?php ".toList ++ "echo call_user_func( static::$registered_tags['".toList =
        "<?php echo call_user_func( static::$registered_tags[".toList ++ ['\''] := rfl
    have middle : "']['function'], ".toList = '\'' :: "]['function'], ".toList := rfl
    have closing : " ); ?>".toList = " );".toList ++ " ?>".toList := rfl
    unfold instruction block
    simp only [quoted, middle, closing, List.append_assoc, List.cons_append, List.nil_append]
    rw [← List.append_assoc, opening]
    simp only [List.append_assoc, List.cons_append, List.nil_append]
  · intro text _ after
    simpa [quoted] using readSingle?_quoteSingle text after
  · intro after
    refine spells_matches tagMatches _ after ?_
    rw [List.length_append]
    omega

/-- A name that is a quote, and values that end in backslashes. -/
theorem customTag_reads_slashes :
    let tagMatches : TagMatches := ⟨[⟨some "'".toList, ["\\".toList, "\\'\\\\".toList]⟩]⟩
    IsMatchText tagMatches "\\'\\\\".toList ∧
      quoted "\\'\\\\".toList <:+: exportMatches tagMatches ∧
      readSingle? ((quoted "\\'\\\\".toList).tail ++ ",\n  ),\n)".toList) =
        some ("\\'\\\\".toList, ",\n  ),\n)".toList) ∧
      readLiteral? (exportMatches tagMatches ++ " ); ?>".toList) =
        some (matchesLiteral tagMatches, " ); ?>".toList) := by
  intro tagMatches
  have isText : IsMatchText tagMatches "\\'\\\\".toList :=
    ⟨_, .head _, .inr (.tail _ (.head _))⟩
  obtain ⟨-, written, ends, read⟩ := customTag_reads "'".toList tagMatches
  exact ⟨isText, written _ isText, ends _ (.inr isText) _, read _⟩

end Matches

end Stencil.Php
