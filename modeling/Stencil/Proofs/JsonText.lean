import Mathlib.Data.List.Basic
import Stencil.Proofs.SettingsDigest

/-! # What JSON text says

A value in its pretty form is read back as that value.  The reader passes the
line breaks and the indentation, so neither the depth at which a value is
written nor what follows it matters, as long as no digit follows a number.

* `readDigits?_decimal` — numbers;
* `readsBack` — a value at any depth, with any text behind it;
* `read?_pretty` — a whole text.
-/

namespace Stencil.Json

open Stencil.Text (decimal)

/-! ## Blanks -/

def IsBlank (c : Char) : Prop := c = ' ' ∨ c = '\n' ∨ c = '\r' ∨ c = '\t'

theorem skipBlanks_append {blanks : List Char} (blank : ∀ c ∈ blanks, IsBlank c)
    (text : List Char) : skipBlanks (blanks ++ text) = skipBlanks text := by
  apply List.dropWhile_append_of_pos
  intro c inside
  rcases blank c inside with rfl | rfl | rfl | rfl <;> rfl

theorem skipBlanks_cons {c : Char} (solid : ¬ IsBlank c) (text : List Char) :
    skipBlanks (c :: text) = c :: text := by
  apply List.dropWhile_cons_of_neg
  simpa [IsBlank, and_assoc] using solid

theorem isBlank_of_mem_newline {depth : Nat} {c : Char} (inside : c ∈ newline depth) :
    IsBlank c := by
  rcases List.mem_cons.1 inside with rfl | indented
  · exact .inr (.inl rfl)
  · exact .inl (List.eq_of_mem_replicate indented)

theorem skipBlanks_newline (depth : Nat) (text : List Char) :
    skipBlanks (newline depth ++ text) = skipBlanks text :=
  skipBlanks_append (fun _ => isBlank_of_mem_newline) text

theorem readValue?_skip {blanks : List Char} (blank : ∀ c ∈ blanks, IsBlank c) (rounds : Nat)
    (text : List Char) : readValue? rounds (blanks ++ text) = readValue? rounds text := by
  cases rounds with
  | zero => simp only [readValue?]
  | succ rounds => simp only [readValue?, skipBlanks_append blank]

theorem readValue?_space (rounds : Nat) (text : List Char) :
    readValue? rounds (' ' :: text) = readValue? rounds text := by
  have blank : ∀ c ∈ [' '], IsBlank c := by simp [IsBlank]
  exact readValue?_skip blank rounds text

/-! ## Numbers -/

/-- Whether a text does not begin with a digit. -/
def NoDigitAhead (text : List Char) : Prop := ∀ c ∈ text.head?, c.isDigit = false

/-- A number begins with a zero only if it is one. -/
theorem head?_decimal {n : Nat} (positive : 0 < n) : (decimal n).head? ≠ some '0' := by
  -- The first digit is that of a tenth, until one digit is left.
  induction n using Nat.strongRecOn with
  | ind n ih =>
  by_cases single : n < 10
  · have all : ∀ n < 10, 0 < n → [Nat.digitChar n].head? ≠ some '0' := by decide
    rw [decimal, Nat.toDigits_of_lt_base single]
    exact all n single positive
  · have tenth := ih (n / 10) (by omega) (by omega)
    rw [decimal, Nat.toDigits_of_base_le (by decide) (by omega), List.head?_append]
    obtain ⟨c, digits, split⟩ := List.exists_cons_of_ne_nil (Nat.toDigits_ne_nil (b := 10) (n := n / 10))
    rw [decimal] at tenth
    simpa [split] using tenth

theorem readDigits?_decimal (n : Nat) {rest : List Char} (stops : NoDigitAhead rest) :
    readDigits? (decimal n ++ rest) = some (n, rest) := by
  have digits : ∀ c ∈ decimal n, c.isDigit = true := fun c inside =>
    Nat.isDigit_of_mem_toDigits (by decide) (by decide) inside
  have taken : rest.takeWhile Char.isDigit = [] ∧ rest.dropWhile Char.isDigit = rest := by
    cases rest with
    | nil => exact ⟨rfl, rfl⟩
    | cons c rest => simp [stops c rfl]
  have value : (decimal n).foldl (fun sum c => 10 * sum + (c.toNat - 48)) 0 = n :=
    Nat.ofDigitChars_ten_toDigits
  have filled : decimal n ≠ [] := Nat.toDigits_ne_nil
  have plain : (decimal n).head? = some '0' → (decimal n).length = 1 := by
    intro zero
    obtain rfl : n = 0 := Nat.eq_zero_of_not_pos fun positive => head?_decimal positive zero
    rfl
  unfold readDigits?
  rw [List.takeWhile_append_of_pos digits, List.dropWhile_append_of_pos digits, taken.1, taken.2,
    List.append_nil]
  simpa [filled, value] using plain

theorem exists_decimal (n : Nat) :
    ∃ c digits, decimal n = c :: digits ∧ c.isDigit = true := by
  obtain ⟨c, digits, split⟩ := List.exists_cons_of_ne_nil (Nat.toDigits_ne_nil (b := 10) (n := n))
  refine ⟨c, digits, split, ?_⟩
  apply Nat.isDigit_of_mem_toDigits (b := 10) (n := n) (by decide) (by decide)
  rw [split]
  exact .head _

theorem not_isBlank_of_isDigit {c : Char} (digit : c.isDigit = true) : ¬ IsBlank c := by
  rintro (rfl | rfl | rfl | rfl) <;> revert digit <;> decide

theorem readValue?_digit {c : Char} (digit : c.isDigit = true) (rounds : Nat) (text : List Char) :
    readValue? (rounds + 1) (c :: text) =
      (readDigits? (c :: text)).map fun (n, after) => (.number n, after) := by
  rw [readValue?, skipBlanks_cons (not_isBlank_of_isDigit digit)]
  -- No other form of a value begins with a digit.
  split
  all_goals first
    | rfl
    | (rename_i same; obtain ⟨rfl, -⟩ := List.cons.inj same; exact absurd digit (by decide))

theorem readValue?_integer (value : Int) (rounds : Nat) {rest : List Char}
    (stops : NoDigitAhead rest) :
    readValue? (rounds + 1) (integer value ++ rest) = some (.number value, rest) := by
  cases value with
  | ofNat n =>
    obtain ⟨c, digits, split, digit⟩ := exists_decimal n
    have read := readDigits?_decimal n stops
    rw [split, List.cons_append] at read
    rw [integer, split, List.cons_append, readValue?_digit digit, read]
    rfl
  | negSucc n =>
    rw [integer, List.cons_append, readValue?, skipBlanks_cons (by simp [IsBlank])]
    simp only [readDigits?_decimal (n + 1) stops, Option.map_some]
    rfl

/-! ## Values -/

theorem exists_prettyAt (depth : Nat) (value : Json) :
    ∃ c text, prettyAt depth value = c :: text ∧ ¬ IsBlank c ∧ c ≠ ']' := by
  cases value with
  | null => exact ⟨'n', _, by rw [prettyAt]; rfl, by simp [IsBlank], by decide⟩
  | bool value =>
    cases value
    · exact ⟨'f', _, by rw [prettyAt]; rfl, by simp [IsBlank], by decide⟩
    · exact ⟨'t', _, by rw [prettyAt]; rfl, by simp [IsBlank], by decide⟩
  | number value =>
    cases value with
    | ofNat n =>
      obtain ⟨c, digits, split, digit⟩ := exists_decimal n
      refine ⟨c, digits, by rw [prettyAt, integer, split], not_isBlank_of_isDigit digit, ?_⟩
      rintro rfl
      revert digit
      decide
    | negSucc n => exact ⟨'-', _, by rw [prettyAt, integer], by simp [IsBlank], by decide⟩
  | string text => exact ⟨'"', _, by rw [prettyAt, quote]; rfl, by simp [IsBlank], by decide⟩
  | array items =>
    cases items with
    | nil => exact ⟨'[', _, by rw [prettyAt]; rfl, by simp [IsBlank], by decide⟩
    | cons item items => exact ⟨'[', _, by rw [prettyAt]; rfl, by simp [IsBlank], by decide⟩
  | object members =>
    cases members with
    | nil => exact ⟨'{', _, by rw [prettyAt], by simp [IsBlank], by decide⟩
    | cons member members =>
      exact ⟨'{', _, by rw [prettyAt]; rfl, by simp [IsBlank], by decide⟩

/-- What follows a value inside another one, or at the end, is no digit. -/
theorem noDigitAhead_cons {c : Char} (other : c.isDigit = false) (text : List Char) :
    NoDigitAhead (c :: text) := by
  rintro _ ⟨⟩
  exact other

theorem noDigitAhead_newline (depth : Nat) (text : List Char) :
    NoDigitAhead (newline depth ++ text) := noDigitAhead_cons rfl _

theorem noDigitAhead_prettyItems (depth outer : Nat) (items : List Json) (text : List Char) :
    NoDigitAhead (prettyItems depth items ++ (newline outer ++ text)) := by
  cases items with
  | nil => exact noDigitAhead_newline outer text
  | cons item items =>
    rw [prettyItems]
    exact noDigitAhead_cons rfl _

theorem noDigitAhead_prettyMembers (depth outer : Nat) (members : List (List Char × Json))
    (text : List Char) :
    NoDigitAhead (prettyMembers depth members ++ (newline outer ++ text)) := by
  cases members with
  | nil => exact noDigitAhead_newline outer text
  | cons member members =>
    rw [prettyMembers]
    exact noDigitAhead_cons rfl _

/-! ### The forms of a value by their first character -/

theorem quote_append (text rest : List Char) :
    quote text ++ rest = '"' :: (text.flatMap escapeChar ++ '"' :: rest) := by
  simp [quote]

theorem colon_append (text : List Char) : ": ".toList ++ text = ':' :: ' ' :: text := rfl

theorem readValue?_quote (rounds : Nat) (text rest : List Char) :
    readValue? (rounds + 1) (quote text ++ rest) = some (.string text, rest) := by
  rw [quote_append, readValue?, skipBlanks_cons (by simp [IsBlank])]
  simp only [readString?_quoted, Option.map_some]

theorem readValue?_bracket {text : List Char} (rounds : Nat)
    (filled : (skipBlanks text).head? ≠ some ']') :
    readValue? (rounds + 1) ('[' :: text) =
      (readItems? rounds text).map fun (items, after) => (.array items, after) := by
  rw [readValue?, skipBlanks_cons (by simp [IsBlank])]
  simp only
  split
  · rename_i closing
    exact absurd (by rw [closing]; rfl) filled
  · rfl

theorem readValue?_brace {text : List Char} (rounds : Nat)
    (filled : (skipBlanks text).head? ≠ some '}') :
    readValue? (rounds + 1) ('{' :: text) =
      (readMembers? rounds text).map fun (members, after) => (.object members, after) := by
  rw [readValue?, skipBlanks_cons (by simp [IsBlank])]
  simp only
  split
  · rename_i closing
    exact absurd (by rw [closing]; rfl) filled
  · rfl

/-! ### Values inside values -/

/-- Whether values are read back in a number of rounds if they have no more
    characters than that. -/
def ReadsBack (rounds : Nat) : Prop :=
  ∀ (value : Json) (depth : Nat) (rest : List Char), (prettyAt depth value).length ≤ rounds →
    NoDigitAhead rest → readValue? rounds (prettyAt depth value ++ rest) = some (value, rest)

/-- The items of an array are read up to the bracket behind them. -/
theorem readItems?_pretty (item : Json) (items : List Json) (depth outer rounds : Nat)
    (rest : List Char) (earlier : ∀ fewer < rounds, ReadsBack fewer)
    (enough : (prettyAt depth item ++ prettyItems depth items).length < rounds) :
    readItems? rounds (newline depth ++ (prettyAt depth item ++ (prettyItems depth items ++
      (newline outer ++ ']' :: rest)))) = some (item :: items, rest) := by
  induction items generalizing item rounds with
  | nil =>
    obtain _ | rounds := rounds
    · exact absurd enough (Nat.not_lt_zero _)
    rw [prettyItems, List.append_nil] at enough
    have first := earlier rounds rounds.lt_succ_self item depth (newline outer ++ ']' :: rest)
      (by omega) (noDigitAhead_newline outer _)
    have closing := skipBlanks_cons (c := ']') (by simp [IsBlank]) rest
    rw [prettyItems, List.nil_append, readItems?,
      readValue?_skip (fun _ => isBlank_of_mem_newline), first]
    simp [skipBlanks_newline, closing]
  | cons next items ih =>
    obtain _ | rounds := rounds
    · exact absurd enough (Nat.not_lt_zero _)
    simp only [prettyItems, List.length_append, List.length_cons] at enough
    have first := earlier rounds rounds.lt_succ_self item depth
      (prettyItems depth (next :: items) ++ (newline outer ++ ']' :: rest)) (by omega)
      (noDigitAhead_prettyItems depth outer _ _)
    have others := ih next rounds (fun fewer less => earlier fewer (by omega)) (by
      simp only [List.length_append]
      omega)
    have comma := skipBlanks_cons (c := ',') (by simp [IsBlank])
    rw [readItems?, readValue?_skip (fun _ => isBlank_of_mem_newline), first]
    simp [prettyItems, comma, others]

/-- The members of an object are read up to the brace behind them. -/
theorem readMembers?_pretty (name : List Char) (value : Json) (members : List (List Char × Json))
    (depth outer rounds : Nat) (rest : List Char) (earlier : ∀ fewer < rounds, ReadsBack fewer)
    (enough : (prettyAt depth value ++ prettyMembers depth members).length < rounds) :
    readMembers? rounds (newline depth ++ (quote name ++ ':' :: ' ' :: (prettyAt depth value ++
      (prettyMembers depth members ++ (newline outer ++ '}' :: rest))))) =
        some ((name, value) :: members, rest) := by
  have colon := skipBlanks_cons (c := ':') (by simp [IsBlank])
  induction members generalizing name value rounds with
  | nil =>
    obtain _ | rounds := rounds
    · exact absurd enough (Nat.not_lt_zero _)
    rw [prettyMembers, List.append_nil] at enough
    have first := earlier rounds rounds.lt_succ_self value depth (newline outer ++ '}' :: rest)
      (by omega) (noDigitAhead_newline outer _)
    have closing := skipBlanks_cons (c := '}') (by simp [IsBlank]) rest
    rw [readMembers?, skipBlanks_newline, quote_append, skipBlanks_cons (by simp [IsBlank])]
    simp [prettyMembers, readString?_quoted, colon, readValue?_space, first, skipBlanks_newline,
      closing]
  | cons member members ih =>
    obtain ⟨next, json⟩ := member
    obtain _ | rounds := rounds
    · exact absurd enough (Nat.not_lt_zero _)
    simp only [prettyMembers, List.length_append, List.length_cons] at enough
    have first := earlier rounds rounds.lt_succ_self value depth
      (prettyMembers depth ((next, json) :: members) ++ (newline outer ++ '}' :: rest)) (by omega)
      (noDigitAhead_prettyMembers depth outer _ _)
    have others := ih next json rounds (fun fewer less => earlier fewer (by omega)) (by
      simp only [List.length_append]
      omega)
    have comma := skipBlanks_cons (c := ',') (by simp [IsBlank])
    rw [readMembers?, skipBlanks_newline, quote_append, skipBlanks_cons (by simp [IsBlank])]
    simp only [readString?_quoted, Option.bind_eq_bind, Option.bind_some, colon,
      readValue?_space, first]
    simp only [prettyMembers, colon_append, List.cons_append, List.append_assoc, comma, others]
    rfl

/-- One round for each character of a value is enough, whatever its form. -/
theorem readsBack (rounds : Nat) : ReadsBack rounds := by
  -- What stands in a value is shorter than the value, so fewer rounds are left for it.
  induction rounds using Nat.strongRecOn with
  | ind rounds earlier =>
  intro value depth rest enough stops
  obtain ⟨c, text, split, _, _⟩ := exists_prettyAt depth value
  obtain _ | rounds := rounds
  · simp [split] at enough
  replace earlier := fun fewer (less : fewer < rounds) => earlier fewer (by omega)
  match value with
  | .null =>
    rw [prettyAt, readValue?]
    rfl
  | .bool true =>
    rw [prettyAt, readValue?]
    rfl
  | .bool false =>
    rw [prettyAt, readValue?]
    rfl
  | .number value =>
    rw [prettyAt]
    exact readValue?_integer value rounds stops
  | .string text =>
    rw [prettyAt]
    exact readValue?_quote rounds text rest
  | .array [] =>
    rw [prettyAt, readValue?]
    rfl
  | .array (item :: items) =>
    have inner := readItems?_pretty item items (depth + 1) depth rounds rest earlier (by
      simp only [prettyAt, newline, List.length_append, List.length_cons] at enough ⊢
      omega)
    -- What stands first between the brackets is no closing bracket.
    obtain ⟨first, later, opening, solid, notClosing⟩ := exists_prettyAt (depth + 1) item
    simp only [prettyAt, List.cons_append, List.append_assoc, List.nil_append]
    rw [readValue?_bracket rounds, inner]
    · rfl
    · rw [skipBlanks_newline, opening, List.cons_append, skipBlanks_cons solid]
      simpa using notClosing
  | .object [] =>
    rw [prettyAt, readValue?]
    rfl
  | .object ((name, value) :: members) =>
    have inner := readMembers?_pretty name value members (depth + 1) depth rounds rest earlier (by
      simp only [prettyAt, newline, List.length_append, List.length_cons] at enough ⊢
      omega)
    simp only [prettyAt, colon_append, List.cons_append, List.append_assoc, List.nil_append]
    rw [readValue?_brace rounds, inner]
    · rfl
    · rw [skipBlanks_newline, quote_append, skipBlanks_cons (by simp [IsBlank])]
      simp

/-- A value in its pretty form is read as that value. -/
theorem read?_pretty (value : Json) : read? value.pretty = some value := by
  have whole := readsBack (value.pretty.length + 1) value 0 [] (Nat.le_succ _)
    (by simp [NoDigitAhead])
  rw [List.append_nil] at whole
  unfold read?
  rw [pretty] at whole ⊢
  rw [whole]
  rfl

end Stencil.Json
