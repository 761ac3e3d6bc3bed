import Mathlib.Data.List.TakeWhile
import Stencil.Proofs.Names

/-! # The moves of the subscript rewriter

The rewriter goes through an expression in moves: a string, a name behind `$` or
behind `->`, a key of a chain, a bracket, or any other character.

* `takeSegment?_eq_some_iff`, `takeSubscript?_eq_some_iff` — which keys are read;
* `takeString_closed` — where strings end;
* `Move` — one move, with what it writes;
* `Move.output_eq`, `exists_move` — the rewriter makes these moves and no others;
* `movewise` — induction along the moves.
-/

namespace Stencil.Expr

open Stencil.Template (isQuote)
open Stencil.Text (isNameStart isNameChar isNameChar_of_isNameStart)

variable {inChain : Bool} {brackets : List Bool} {c : Char} {text rest name word key after : List Char}

/-! ## Words and keys -/

/-- No word goes on at the start of a text. -/
def EndsWord (text : List Char) : Prop := ∀ c ∈ text.head?, isNameChar c = false

/-- The keys that are quoted: words, with an optional `$` in front. -/
def IsKey (key : List Char) : Prop :=
  ∃ word, word ≠ [] ∧ (∀ c ∈ word, isNameChar c = true) ∧ (key = word ∨ key = '$' :: word)

theorem EndsWord.dropWhile (text : List Char) : EndsWord (text.dropWhile isNameChar) := by
  intro c first
  have stops := List.head?_dropWhile_not isNameChar text
  rw [first] at stops
  exact stops

theorem takeWhile_word (chars : ∀ c ∈ word, isNameChar c = true) (ends : EndsWord after) :
    (word ++ after).takeWhile isNameChar = word :=
  takeWhile_append_of_ends chars ends

theorem dropWhile_word (chars : ∀ c ∈ word, isNameChar c = true) (ends : EndsWord after) :
    (word ++ after).dropWhile isNameChar = after :=
  dropWhile_append_of_ends chars ends

theorem startsName_congr {left right : List Char} (same : left.head? = right.head?) :
    startsName left = startsName right := by
  cases left <;> cases right <;> simp_all [startsName]

theorem EndsWord.not_startsName (ends : EndsWord text) : startsName text = false := by
  cases text with
  | nil => rfl
  | cons c rest =>
    rw [startsName, ← Bool.not_eq_true]
    intro start
    cases (ends c rfl).symm.trans (isNameChar_of_isNameStart start)

/-- What begins like a name begins with one. -/
theorem IsIdentifier.takeWhile (named : startsName text = true) :
    IsIdentifier (text.takeWhile isNameChar) := by
  refine ⟨?_, fun c inside => List.mem_takeWhile_imp inside⟩
  cases text with
  | nil => cases named
  | cons c rest =>
    rw [List.takeWhile_cons_of_pos (isNameChar_of_isNameStart named)]
    exact named

theorem IsIdentifier.startsName_append (identifier : IsIdentifier name) (after : List Char) :
    startsName (name ++ after) = true := by
  cases name with
  | nil => cases identifier.1
  | cons c rest => exact identifier.1

theorem IsKey.not_mem (isKey : IsKey key) (symbol : isNameChar c = false) (other : c ≠ '$') :
    c ∉ key := by
  obtain ⟨word, -, chars, same⟩ := isKey
  intro inside
  have inWord : c ∈ word := by
    rcases same with rfl | rfl
    · exact inside
    · exact List.mem_of_ne_of_mem other inside
  cases symbol.symm.trans (chars c inWord)

theorem takeSegment?_sigil (body : List Char) :
    takeSegment? ('$' :: body) =
      if (body.takeWhile isNameChar).isEmpty then none
      else some ('$' :: body.takeWhile isNameChar, body.dropWhile isNameChar) := rfl

theorem takeSegment?_word (plain : rest.head? ≠ some '$') :
    takeSegment? rest =
      if (rest.takeWhile isNameChar).isEmpty then none
      else some (rest.takeWhile isNameChar, rest.dropWhile isNameChar) := by
  unfold takeSegment?
  split
  rename_i sigil body parts
  split at parts
  · exact absurd rfl plain
  · cases parts
    rfl

/-- A key is the longest one that a text begins with. -/
theorem takeSegment?_eq_some_iff :
    takeSegment? text = some (key, after) ↔ IsKey key ∧ EndsWord after ∧ text = key ++ after := by
  have chars (text : List Char) : ∀ c ∈ text.takeWhile isNameChar, isNameChar c = true :=
    fun c inside => List.mem_takeWhile_imp inside
  constructor
  · intro found
    by_cases sigil : text.head? = some '$'
    · obtain ⟨body, rfl⟩ := List.head?_eq_some_iff.1 sigil
      rw [takeSegment?_sigil] at found
      split at found
      · cases found
      · rename_i filled
        cases found
        have isKey : IsKey ('$' :: body.takeWhile isNameChar) :=
          ⟨_, by simpa using filled, chars body, .inr rfl⟩
        exact ⟨isKey, .dropWhile body, by simp⟩
    · rw [takeSegment?_word sigil] at found
      split at found
      · cases found
      · rename_i filled
        cases found
        have isKey : IsKey (text.takeWhile isNameChar) :=
          ⟨_, by simpa using filled, chars text, .inl rfl⟩
        exact ⟨isKey, .dropWhile text, by simp⟩
  · rintro ⟨⟨word, filled, chars, same⟩, ends, rfl⟩
    have taken := takeWhile_word chars ends
    have dropped := dropWhile_word chars ends
    have something : ¬ word.isEmpty = true := by simpa using filled
    rcases same with rfl | rfl
    · have plain : (key ++ after).head? ≠ some '$' := by
        cases key with
        | nil => exact absurd rfl filled
        | cons c key =>
          rintro ⟨⟩
          cases chars '$' (.head _)
      rw [takeSegment?_word plain, taken, dropped, if_neg something]
    · rw [List.cons_append, takeSegment?_sigil, taken, dropped, if_neg something]

theorem isKey_iff : IsKey key ↔ takeSegment? key = some (key, []) := by
  have nothing : EndsWord [] := by simp [EndsWord]
  simp [takeSegment?_eq_some_iff, nothing]

instance (key : List Char) : Decidable (IsKey key) := decidable_of_iff _ isKey_iff.symm

/-- Whether a key is read shows at the first two characters. -/
theorem takeSegment?_eq_none_iff :
    takeSegment? text = none ↔
      EndsWord text ∧ (text.head? = some '$' → EndsWord text.tail) := by
  have empty (text : List Char) : (text.takeWhile isNameChar).isEmpty = true ↔ EndsWord text := by
    cases text with
    | nil => simp [EndsWord]
    | cons c rest => by_cases char : isNameChar c = true <;> simp [EndsWord, char]
  by_cases sigil : text.head? = some '$'
  · obtain ⟨body, rfl⟩ := List.head?_eq_some_iff.1 sigil
    have ends : EndsWord ('$' :: body) := by
      rintro c ⟨⟩
      rfl
    simp [takeSegment?_sigil, empty, ends]
  · simp [takeSegment?_word sigil, empty, sigil]

/-- A bracketed key ends at the closing bracket, a dotted one in front of anything
    but a string. -/
theorem takeSubscript?_eq_some_iff {opener : Char} :
    takeSubscript? opener text = some (key, after) ↔
      ∃ tail, takeSegment? text = some (key, tail) ∧
        if opener = '[' then tail = ']' :: after
        else tail = after ∧ ∀ c ∈ after.head?, isQuote c = false := by
  rw [takeSubscript?]
  cases found : takeSegment? text with
  | none => simp
  | some parts =>
    obtain ⟨segment, tail⟩ := parts
    by_cases bracketed : opener = '['
    · cases tail with
      | nil => simp [bracketed]
      | cons c tail => by_cases closes : c = ']' <;> simp [bracketed, closes]
    · cases tail with
      | nil => simp [bracketed]; grind
      | cons c tail => by_cases quote : isQuote c = true <;> simp [bracketed, quote] <;> grind

/-! ## Strings -/

/-- A character that is matched behind the two rows for backslashes is none. -/
theorem ne_backslash (alone : c = '\\' → rest = [] → False)
    (pair : ∀ d others, c = '\\' → rest = d :: others → False) : c ≠ '\\' := by
  intro same
  cases rest with
  | nil => exact alone same rfl
  | cons d others => exact pair d others same rfl

theorem takeString_cons {quote : Char} (plain : c ≠ '\\') (rest : List Char) :
    takeString quote (c :: rest) =
      if c = quote then ([c], rest)
      else (c :: (takeString quote rest).1, (takeString quote rest).2) := by
  rw [takeString]
  · exact fun same => absurd same plain
  · exact fun d others same => absurd same plain

theorem takeString_split (mark : Char) (rest : List Char) :
    (takeString mark rest).1 ++ (takeString mark rest).2 = rest := by
  fun_induction takeString mark rest <;> simp_all

/-- What holds neither the quote nor a backslash is passed over. -/
theorem takeString_append {quote : Char} (quoteless : quote ∉ text) (plain : '\\' ∉ text)
    (rest : List Char) :
    takeString quote (text ++ rest) =
      (text ++ (takeString quote rest).1, (takeString quote rest).2) := by
  induction text with
  | nil => rfl
  | cons c text ih =>
    rw [List.mem_cons, not_or] at quoteless plain
    rw [List.cons_append, takeString_cons (Ne.symm plain.1), if_neg (Ne.symm quoteless.1),
      ih quoteless.2 plain.2]
    rfl

theorem takeString_string {quote : Char} (quoted : isQuote quote = true) (quoteless : quote ∉ text)
    (plain : '\\' ∉ text) (rest : List Char) :
    takeString quote (text ++ quote :: rest) = (text ++ [quote], rest) := by
  have other : quote ≠ '\\' := by
    rintro rfl
    cases quoted
  rw [takeString_append quoteless plain, takeString_cons other, if_pos rfl]

/-- A string that is closed ends there in front of any text. -/
theorem takeString_closed {quote : Char} {body : List Char} (behind : List Char)
    (taken : takeString quote text = (body, after)) (closed : after ≠ []) :
    takeString quote (body ++ behind) = (body, behind) := by
  fun_induction takeString quote text generalizing body with
  | case1 | case2 =>
    cases taken
    exact absurd rfl closed
  | case3 c rest inner later parts ih =>
    cases taken
    have again := ih parts
    simp only [List.cons_append, takeString, again]
  | case4 rest alone pair =>
    cases taken
    rw [List.singleton_append, takeString_cons (ne_backslash alone pair), if_pos rfl]
  | case5 c rest alone pair different inner later parts ih =>
    cases taken
    rw [List.cons_append, takeString_cons (ne_backslash alone pair), if_neg different, ih parts]

/-! ## Moves -/

/-- Where the rewriter stands: whether a chain goes on, which brackets are open, and
    what is left to read. -/
structure Reading where
  inChain : Bool
  brackets : List Bool
  rest : List Char

/-- What the rewriter writes from here on. -/
def Reading.output (reading : Reading) : List Char :=
  quoteFrom reading.inChain reading.brackets reading.rest

/-- A key of a chain in host code. -/
def quotedKey (key : List Char) : List Char := '[' :: '"' :: (key ++ ['"', ']'])

/-- The characters that are copied one at a time and end the chain. -/
structure IsInert (inChain : Bool) (c : Char) (rest : List Char) : Prop where
  quote : isQuote c = false
  sigil : c = '$' → startsName rest = false
  opening : c ≠ '['
  closing : c ≠ ']'
  dot : c = '.' → inChain = true → takeSubscript? '.' rest = none
  arrow : c = '-' → inChain = true → rest.head? = some '>' → startsName rest.tail = false

/-- One move of the rewriter, with what it writes. -/
inductive Move : Reading → List Char → Reading → Prop where
  | string {inChain : Bool} {brackets : List Bool} {c : Char} {rest body after : List Char}
      (quoted : isQuote c = true) (taken : takeString c rest = (body, after)) :
      Move ⟨inChain, brackets, c :: rest⟩ (c :: body) ⟨false, brackets, after⟩
  | name {inChain : Bool} {brackets : List Bool} {name after : List Char}
      (identifier : IsIdentifier name) (ends : EndsWord after) :
      Move ⟨inChain, brackets, '$' :: (name ++ after)⟩ ('$' :: name) ⟨true, brackets, after⟩
  | property {brackets : List Bool} {name after : List Char}
      (identifier : IsIdentifier name) (ends : EndsWord after) :
      Move ⟨true, brackets, '-' :: '>' :: (name ++ after)⟩ ('-' :: '>' :: name)
        ⟨true, brackets, after⟩
  | subscript {brackets : List Bool} {c : Char} {rest key after : List Char}
      (opens : c = '[' ∨ c = '.') (found : takeSubscript? c rest = some (key, after)) :
      Move ⟨true, brackets, c :: rest⟩ (quotedKey key) ⟨true, brackets, after⟩
  | opening {inChain : Bool} {brackets : List Bool} {rest : List Char}
      (left : inChain = true → takeSubscript? '[' rest = none) :
      Move ⟨inChain, brackets, '[' :: rest⟩ ['['] ⟨false, inChain :: brackets, rest⟩
  | closing {inChain : Bool} {brackets : List Bool} {rest : List Char} :
      Move ⟨inChain, brackets, ']' :: rest⟩ [']'] ⟨brackets.headD false, brackets.tail, rest⟩
  | inert {inChain : Bool} {brackets : List Bool} {c : Char} {rest : List Char}
      (inert : IsInert inChain c rest) :
      Move ⟨inChain, brackets, c :: rest⟩ [c] ⟨false, brackets, rest⟩

variable {reading next : Reading} {written : List Char}

theorem quoteFrom_subscript {segment after : List Char} (opens : c = '[' ∨ c = '.')
    (found : takeSubscript? c rest = some (segment, after)) :
    quoteFrom true brackets (c :: rest) =
      "[\"".toList ++ segment ++ "\"]".toList ++ quoteFrom true brackets after := by
  have noQuote : ¬ isQuote c = true := by rcases opens with rfl | rfl <;> decide
  have noSigil : ¬ (c = '$' && startsName rest) = true := by rcases opens with rfl | rfl <;> simp
  rw [quoteFrom, if_neg noQuote, if_neg noSigil, if_pos (by simpa using opens)]
  split
  · rename_i other
    cases found.symm.trans other
    rfl
  · rename_i none
    cases found.symm.trans none

theorem quoteFrom_opener (opens : c = '[' ∨ c = '.') (none : takeSubscript? c rest = none) :
    quoteFrom true brackets (c :: rest) =
      c :: quoteFrom false (if c = '[' then true :: brackets else brackets) rest := by
  have noQuote : ¬ isQuote c = true := by rcases opens with rfl | rfl <;> decide
  have noSigil : ¬ (c = '$' && startsName rest) = true := by rcases opens with rfl | rfl <;> simp
  rw [quoteFrom, if_neg noQuote, if_neg noSigil, if_pos (by simpa using opens)]
  split
  · rename_i other
    cases none.symm.trans other
  · rfl

@[simp] theorem output_nil : (Reading.mk inChain brackets []).output = [] := by
  rw [Reading.output, quoteFrom]

/-- What the rewriter writes is what a move writes, and what it writes from there on. -/
theorem Move.output_eq (move : Move reading written next) :
    reading.output = written ++ next.output := by
  have noQuote : ¬ isQuote '$' = true ∧ ¬ isQuote '-' = true ∧ ¬ isQuote '[' = true ∧
      ¬ isQuote ']' = true := by decide
  cases move with
  | string quoted taken =>
    rw [Reading.output, quoteFrom, if_pos quoted, taken]
    rfl
  | name identifier ends =>
    have named := identifier.startsName_append
    rw [Reading.output, quoteFrom, if_neg noQuote.1, if_pos (by simp [named]),
      takeWhile_word identifier.2 ends, dropWhile_word identifier.2 ends]
    rfl
  | property identifier ends =>
    have named := identifier.startsName_append
    rw [Reading.output, quoteFrom, if_neg noQuote.2.1, if_neg (by simp), if_neg (by simp),
      if_neg (by simp), if_neg (by simp), if_pos (by simp [named]), List.tail_cons,
      takeWhile_word identifier.2 ends, dropWhile_word identifier.2 ends]
    rfl
  | subscript opens found =>
    rw [Reading.output, quoteFrom_subscript opens found]
    simp [Reading.output, quotedKey]
  | @opening inChain brackets rest left =>
    cases inChain with
    | true =>
      rw [Reading.output, quoteFrom_opener (.inl rfl) (left rfl)]
      rfl
    | false =>
      rw [Reading.output, quoteFrom, if_neg noQuote.2.2.1, if_neg (by simp), if_neg (by simp),
        if_pos rfl]
      rfl
  | closing =>
    rw [Reading.output, quoteFrom, if_neg noQuote.2.2.2, if_neg (by simp), if_neg (by simp),
      if_neg (by simp), if_pos rfl]
    rfl
  | @inert inChain brackets c rest inert =>
    by_cases dot : c = '.' ∧ inChain = true
    · obtain ⟨rfl, rfl⟩ := dot
      rw [Reading.output, quoteFrom_opener (.inr rfl) (inert.dot rfl rfl), if_neg (by decide)]
      rfl
    · have noName : ¬ (c = '$' && startsName rest) = true := by
        simpa using inert.sigil
      have noKey : ¬ ((c = '[' || c = '.') && inChain) = true := by
        simpa [inert.opening] using dot
      have noArrow : ¬ (c = '-' && inChain && rest.head? == some '>' && startsName rest.tail) =
          true := by
        simpa using inert.arrow
      rw [Reading.output, quoteFrom, if_neg (by simp [inert.quote]), if_neg noName, if_neg noKey,
        if_neg inert.opening, if_neg inert.closing, if_neg noArrow]
      rfl

/-- The rewriter moves as long as something is left to read. -/
theorem exists_move (inChain : Bool) (brackets : List Bool) (c : Char) (rest : List Char) :
    ∃ written next, Move ⟨inChain, brackets, c :: rest⟩ written next := by
  by_cases quoted : isQuote c = true
  · exact ⟨_, _, .string quoted rfl⟩
  by_cases sigil : c = '$' ∧ startsName rest = true
  · obtain ⟨rfl, named⟩ := sigil
    have move : Move ⟨inChain, brackets, _⟩ _ _ := .name (.takeWhile named) (.dropWhile rest)
    rw [List.takeWhile_append_dropWhile] at move
    exact ⟨_, _, move⟩
  by_cases found : inChain = true ∧ (c = '[' ∨ c = '.') ∧ ∃ parts, takeSubscript? c rest = some parts
  · obtain ⟨rfl, opens, ⟨key, after⟩, found⟩ := found
    exact ⟨_, _, .subscript opens found⟩
  have left (opens : c = '[' ∨ c = '.') (chained : inChain = true) : takeSubscript? c rest = none := by
    rw [Option.eq_none_iff_forall_not_mem]
    exact fun parts taken => found ⟨chained, opens, parts, taken⟩
  by_cases opening : c = '['
  · subst opening
    exact ⟨_, _, .opening (left (.inl rfl))⟩
  by_cases closing : c = ']'
  · subst closing
    exact ⟨_, _, .closing⟩
  by_cases arrow : c = '-' ∧ inChain = true ∧ rest.head? = some '>' ∧ startsName rest.tail = true
  · obtain ⟨rfl, rfl, head, named⟩ := arrow
    obtain ⟨body, rfl⟩ := List.head?_eq_some_iff.1 head
    have named : startsName body = true := named
    have move : Move ⟨true, brackets, _⟩ _ _ := .property (.takeWhile named) (.dropWhile body)
    rw [List.takeWhile_append_dropWhile] at move
    exact ⟨_, _, move⟩
  have inert : IsInert inChain c rest :=
    { quote := by simpa using quoted
      sigil := by simpa using sigil
      opening := opening
      closing := closing
      dot := by
        rintro rfl
        exact left (.inr rfl)
      arrow := by simpa using arrow }
  exact ⟨_, _, .inert inert⟩

theorem Move.shorter (move : Move reading written next) :
    next.rest.length < reading.rest.length := by
  cases move with
  | @string inChain brackets c rest body after quoted taken =>
    have := length_takeString c rest
    rw [taken] at this
    exact Nat.lt_succ_of_le this
  | name | property =>
    simp only [List.length_cons, List.length_append]
    omega
  | subscript opens found => exact Nat.lt_succ_of_le (length_takeSubscript? found)
  | opening | closing | inert => exact Nat.lt_succ_self _

/-- Induction along the moves of the rewriter. -/
theorem movewise {motive : Reading → Prop}
    (ended : ∀ inChain brackets, motive ⟨inChain, brackets, []⟩)
    (moved : ∀ reading written next, Move reading written next → motive next → motive reading)
    (reading : Reading) : motive reading := by
  induction size : reading.rest.length using Nat.strongRecOn generalizing reading with
  | ind n ih =>
    obtain ⟨inChain, brackets, text⟩ := reading
    cases text with
    | nil => exact ended inChain brackets
    | cons c rest =>
      obtain ⟨written, next, move⟩ := exists_move inChain brackets c rest
      exact moved _ _ _ move (ih _ (size ▸ move.shorter) next rfl)

end Stencil.Expr
