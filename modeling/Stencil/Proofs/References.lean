import Mathlib.Data.List.Forall2
import Stencil.Proofs.AutoEscaping
import Stencil.Proofs.ModifierChains
import Stencil.Proofs.ResolveScan
import Stencil.Proofs.SubscriptChains

/-! # References in resolved expressions

A reference is a `$` with the word behind it, of any script.  Resolving an
expression puts the depth behind the placeholders among the references, and then
takes the text apart; it keeps every reference in its place, but a key of a chain
loses the letters outside ASCII at its end.

* `references` — the words of all references of a text;
* `references_renameBindings` — placeholders are numbered, and nothing else changes;
* `references_output` — what the subscript rewriter does to references;
* `CutsPlaceholder` — when a key that loses its end becomes a placeholder;
* `references_composeModifiers` — the parts of a chain have the references of it;
* `isPlacedAt_resolve` — all steps together.
-/

namespace Stencil.Expr

open Stencil.Template (isQuote)
open Stencil.Text

variable {text left right rest name word kept : List Char} {level : Nat}

/-! ## References -/

/-- The words behind the sigils of a text, in their order; a sigil without a word
    counts with the empty one. -/
def references : List Char → List (List Char)
  | [] => []
  | c :: rest => if c = '$' then rest.takeWhile isWord :: references rest else references rest

/-- A placeholder, with a word boundary behind it, occurs in the text. -/
def HasPlaceholder (text : List Char) : Prop :=
  ∃ name ∈ bindingNames, ∃ front after, text = front ++ '$' :: (name ++ after) ∧
    ∀ c ∈ after.head?, isWord c = false

theorem references_cons_of_ne {c : Char} (plain : c ≠ '$') (rest : List Char) :
    references (c :: rest) = references rest := if_neg plain

theorem references_of_not_mem (plain : '$' ∉ text) : references text = [] := by
  induction text with
  | nil => rfl
  | cons c rest ih =>
    rw [List.mem_cons, not_or] at plain
    rw [references_cons_of_ne (Ne.symm plain.1), ih plain.2]

theorem references_append_of_not_mem (plain : '$' ∉ left) (right : List Char) :
    references (left ++ right) = references right := by
  induction left with
  | nil => rfl
  | cons c left ih =>
    rw [List.mem_cons, not_or] at plain
    rw [List.cons_append, references_cons_of_ne (Ne.symm plain.1), ih plain.2]

/-- A text that begins with no word adds its own references. -/
theorem references_append (apart : ∀ c ∈ right.head?, isWord c = false) :
    references (left ++ right) = references left ++ references right := by
  have alone (text : List Char) : (text ++ right).takeWhile isWord = text.takeWhile isWord := by
    induction text with
    | nil =>
      cases right with
      | nil => rfl
      | cons c right => simp [apart c rfl]
    | cons c text ih => simp only [List.cons_append, List.takeWhile_cons, ih]
  induction left with
  | nil => rfl
  | cons c left ih =>
    simp only [List.cons_append, references, ih, alone]
    split <;> rfl

theorem mem_references_iff :
    word ∈ references text ↔
      ∃ front rest, text = front ++ '$' :: rest ∧ rest.takeWhile isWord = word := by
  induction text with
  | nil => simp [references]
  | cons c rest ih =>
    have later : (∃ front behind, rest = front ++ '$' :: behind ∧ behind.takeWhile isWord = word) →
        ∃ front behind, c :: rest = front ++ '$' :: behind ∧ behind.takeWhile isWord = word := by
      rintro ⟨front, behind, rfl, same⟩
      exact ⟨c :: front, behind, rfl, same⟩
    constructor
    · intro listed
      by_cases sigil : c = '$'
      · subst sigil
        rw [references, if_pos rfl, List.mem_cons] at listed
        rcases listed with rfl | listed
        · exact ⟨[], rest, rfl, rfl⟩
        · exact later (ih.1 listed)
      · rw [references_cons_of_ne sigil] at listed
        exact later (ih.1 listed)
    · rintro ⟨front, behind, split, same⟩
      cases front with
      | nil =>
        cases split
        rw [references, if_pos rfl, same]
        exact .head _
      | cons d front =>
        cases split
        have listed := ih.2 ⟨front, behind, rfl, same⟩
        rw [references]
        split
        · exact .tail _ listed
        · exact listed

theorem hasPlaceholder_iff :
    HasPlaceholder text ↔ ∃ name ∈ bindingNames, name ∈ references text := by
  constructor
  · rintro ⟨name, listed, front, after, rfl, ends⟩
    exact ⟨name, listed, mem_references_iff.2
      ⟨front, _, rfl, takeWhile_append_of_ends (isWord_of_mem_bindingNames listed) ends⟩⟩
  · rintro ⟨name, listed, inside⟩
    obtain ⟨front, rest, rfl, rfl⟩ := mem_references_iff.1 inside
    refine ⟨_, listed, front, rest.dropWhile isWord, by rw [List.takeWhile_append_dropWhile], ?_⟩
    intro c first
    have stops := List.head?_dropWhile_not isWord rest
    rw [first] at stops
    exact stops

/-! ## Numbering placeholders -/

theorem takeWhile_renameFrom (suffix text : List Char) :
    (renameFrom suffix 0 text).takeWhile isWord = text.takeWhile isWord := by
  induction text with
  | nil => rfl
  | cons c rest ih =>
    by_cases word : isWord c = true
    · have plain : c ≠ '$' := by
        rintro rfl
        exact absurd word (by decide)
      simp [renameFrom, plain, word, ih]
    · rw [renameFrom]
      split <;> simp [word]

theorem not_mem_of_isWord {c : Char} (chars : ∀ c ∈ word, isWord c = true)
    (other : isWord c = false) : c ∉ word :=
  fun inside => Bool.false_ne_true (other.symm.trans (chars c inside))

/-- A word behind a sigil is the beginning of the first reference. -/
theorem references_sigil_append (chars : ∀ c ∈ word, isWord c = true) (rest : List Char) :
    references ('$' :: (word ++ rest)) = (word ++ rest.takeWhile isWord) :: references rest := by
  rw [references, if_pos rfl, List.takeWhile_append_of_pos chars,
    references_append_of_not_mem (not_mem_of_isWord chars (by decide))]

/-- Every placeholder is numbered, and all other references stay as they are. -/
theorem references_renameBindings (level : Nat) (text : List Char) :
    references (renameBindings level text) = (references text).map (numbered level) := by
  unfold renameBindings
  by_cases outside : level = 0
  · have same : numbered level = id := funext fun name => by simp [numbered, outside]
    rw [if_pos outside, same, List.map_id]
  rw [if_neg outside]
  induction text using renamewise with
  | ended => rfl
  | placeholder name listed after ends ih =>
    have chars := isWord_of_mem_bindingNames listed
    have nothing : after.takeWhile isWord = [] := by
      have alone : (name ++ after).takeWhile isWord = name := takeWhile_append_of_ends chars ends
      rw [List.takeWhile_append_of_pos chars] at alone
      exact List.self_eq_append_right.1 alone.symm
    rw [references_sigil_append (isWord_append_decimal listed level), takeWhile_renameFrom,
      references_sigil_append chars, nothing, ih]
    simp [numbered, listed, outside]
  | other c rest unlisted ih =>
    by_cases sigil : c = '$'
    · rw [references, if_pos sigil, takeWhile_renameFrom, ih, references, if_pos sigil]
      simp [numbered, unlisted sigil]
    · rw [references_cons_of_ne sigil, references_cons_of_ne sigil, ih]

/-- A numbered name is no placeholder any more. -/
theorem numbered_not_mem_bindingNames (inside : level ≠ 0) (name : List Char) :
    numbered level name ∉ bindingNames := by
  by_cases listed : name ∈ bindingNames
  · obtain ⟨digits, digit, last⟩ : ∃ digits digit, decimal level = digits ++ [digit] :=
      ⟨_, _, (List.dropLast_append_getLast Nat.toDigits_ne_nil).symm⟩
    have ends : digit ∈ decimal level := by simp [last]
    have isDigit := isDigit_of_mem_decimal ends
    have noDigit : ∀ name ∈ bindingNames, name.getLast?.any Char.isDigit = false := by decide
    rw [numbered, if_pos ⟨listed, inside⟩, last]
    intro again
    simpa [isDigit] using noDigit _ again
  · rwa [numbered, if_neg fun both => listed both.1]

/-! ## The subscript rewriter -/

/-- What is left of a word: all of it, or its beginning in ASCII. -/
def IsCut (word kept : List Char) : Prop :=
  kept = word ∨ kept = word.takeWhile isNameChar ∧ kept ≠ []

theorem isQuote_of_isWord {c : Char} (word : isWord c = true) : isQuote c = false := by
  have marks : isWord '"' = false ∧ isWord '\'' = false := by decide
  have double : c ≠ '"' := by
    rintro rfl
    cases marks.1.symm.trans word
  have single : c ≠ '\'' := by
    rintro rfl
    cases marks.2.symm.trans word
  simp [isQuote, double, single]

theorem exists_of_mem_left {α β : Type} {R : α → β → Prop} {xs : List α} {ys : List β}
    (related : List.Forall₂ R xs ys) {x : α} (inside : x ∈ xs) : ∃ y ∈ ys, R x y := by
  induction related with
  | nil => cases inside
  | cons holds _ ih =>
    rcases List.mem_cons.1 inside with rfl | later
    · exact ⟨_, .head _, holds⟩
    · obtain ⟨y, listed, related⟩ := ih later
      exact ⟨y, .tail _ listed, related⟩

/-- The rewriter comes to a dotted key of a chain that is a placeholder by itself, but
    goes on with a letter outside ASCII in the text. -/
inductive CutsPlaceholder : Reading → Prop where
  | here {brackets : List Bool} {name after : List Char} (listed : name ∈ bindingNames)
      (goesOn : ∃ c ∈ after.head?, isWord c = true ∧ isNameChar c = false) :
      CutsPlaceholder ⟨true, brackets, '.' :: '$' :: (name ++ after)⟩
  | later {reading next : Reading} {written : List Char} (move : Move reading written next)
      (cuts : CutsPlaceholder next) : CutsPlaceholder reading

variable {reading next : Reading} {written : List Char}

theorem takeWhile_append_congr {p : Char → Bool} (left : List Char)
    (same : left.takeWhile p = right.takeWhile p) (text : List Char) :
    (text ++ left).takeWhile p = (text ++ right).takeWhile p := by
  induction text with
  | nil => exact same
  | cons c text ih => simp only [List.cons_append, List.takeWhile_cons, ih]

/-- The references of a text depend on the text behind it only by its first word. -/
theorem exists_references_append (same : left.takeWhile isWord = right.takeWhile isWord)
    (text : List Char) :
    ∃ front, references (text ++ left) = front ++ references left ∧
      references (text ++ right) = front ++ references right := by
  induction text with
  | nil => exact ⟨[], rfl, rfl⟩
  | cons c text ih =>
    obtain ⟨front, onLeft, onRight⟩ := ih
    by_cases sigil : c = '$'
    · refine ⟨(text ++ left).takeWhile isWord :: front, ?_, ?_⟩
      · rw [List.cons_append, references, if_pos sigil, onLeft, List.cons_append]
      · rw [List.cons_append, references, if_pos sigil, onRight,
          takeWhile_append_congr left same text, List.cons_append]
    · exact ⟨front, by rw [List.cons_append, references_cons_of_ne sigil, onLeft],
        by rw [List.cons_append, references_cons_of_ne sigil, onRight]⟩

/-- A move copies what it reads, or it quotes a key. -/
theorem Move.copies_or_quotes (move : Move reading written next) :
    reading.rest = written ++ next.rest ∨
      ∃ opener key tail, reading.rest = opener :: (key ++ tail) ∧ written = quotedKey key ∧
        reading.inChain = true ∧ IsKey key ∧ EndsWord tail ∧
        (opener = '[' ∧ tail = ']' :: next.rest ∨ opener = '.' ∧ tail = next.rest) := by
  cases move with
  | @string _ _ c rest _ _ _ taken =>
    have split := takeString_split c rest
    rw [taken] at split
    exact .inl (by rw [← split, List.cons_append])
  | name | property | opening | closing | inert => exact .inl (by simp)
  | @subscript brackets c rest key after opens found =>
    obtain ⟨tail, segment, ending⟩ := takeSubscript?_eq_some_iff.1 found
    obtain ⟨isKey, ends, rfl⟩ := takeSegment?_eq_some_iff.1 segment
    refine .inr ⟨c, key, tail, rfl, rfl, rfl, isKey, ends, ?_⟩
    rcases opens with rfl | rfl
    · rw [if_pos rfl] at ending
      exact .inl ⟨rfl, ending⟩
    · rw [if_neg (by decide)] at ending
      exact .inr ⟨rfl, ending.1⟩

theorem takeWhile_output (reading : Reading) :
    reading.output.takeWhile isWord = reading.rest.takeWhile isWord := by
  induction reading using movewise with
  | ended inChain brackets => rw [output_nil]
  | moved reading written next move ih =>
    rw [move.output_eq]
    rcases move.copies_or_quotes with copied | ⟨opener, key, tail, rest, rfl, -, -, -, opens⟩
    · rw [copied, takeWhile_append_congr _ ih]
    · have other : isWord opener = false := by rcases opens with ⟨rfl, -⟩ | ⟨rfl, -⟩ <;> decide
      have bracket : isWord '[' = false := by decide
      rw [rest, quotedKey, List.cons_append, List.takeWhile_cons_of_neg (by simp [bracket]),
        List.takeWhile_cons_of_neg (by simp [other])]

/-- The reference of a key, which has one if it has a sigil: inside the quotes it is the
    word alone, and in the text whatever follows belongs to it. -/
theorem references_key {key : List Char} (isKey : IsKey key) :
    (∀ rest, references (key ++ rest) = references rest) ∨
      ∃ word, word ≠ [] ∧ (∀ c ∈ word, isNameChar c = true) ∧ key = '$' :: word ∧
        ∀ rest, references (key ++ rest) = (word ++ rest.takeWhile isWord) :: references rest := by
  obtain ⟨word, filled, chars, shape⟩ := isKey
  have wordChars : ∀ c ∈ word, isWord c = true :=
    fun c inside => isWord_of_isNameChar (chars c inside)
  rcases shape with rfl | rfl
  · have plain : '$' ∉ key := not_mem_of_isWord wordChars (by decide)
    exact .inl fun rest => references_append_of_not_mem plain rest
  · exact .inr ⟨word, filled, chars, rfl, fun rest => references_sigil_append wordChars rest⟩

/-- What a move does to references: they are the same in front of what comes later, or
    those of a key have lost what stands behind its word. -/
theorem Move.references_eq (move : Move reading written next) :
    (∃ front, references reading.rest = front ++ references next.rest ∧
      references reading.output = front ++ references next.output) ∨
    ∃ word, word ≠ [] ∧ (∀ c ∈ word, isNameChar c = true) ∧ EndsWord next.rest ∧
      reading.inChain = true ∧ reading.rest = '.' :: '$' :: (word ++ next.rest) ∧
      references reading.rest = (word ++ next.rest.takeWhile isWord) :: references next.rest ∧
      references reading.output = word :: references next.output := by
  rw [move.output_eq]
  rcases move.copies_or_quotes with
    copied | ⟨opener, key, tail, rest, rfl, inChain, isKey, ends, opens⟩
  · rw [copied]
    exact .inl (exists_references_append (takeWhile_output next).symm written)
  have bracket : '[' ≠ '$' ∧ '"' ≠ '$' ∧ ']' ≠ '$' ∧ isWord '"' = false := by decide
  have sigil : opener ≠ '$' := by rcases opens with ⟨rfl, -⟩ | ⟨rfl, -⟩ <;> decide
  have quoted : references (quotedKey key ++ next.output) =
      references (key ++ '"' :: ']' :: next.output) := by
    simp [quotedKey, references_cons_of_ne bracket.1, references_cons_of_ne bracket.2.1]
  have behind : references ('"' :: ']' :: next.output) = references next.output := by
    rw [references_cons_of_ne bracket.2.1, references_cons_of_ne bracket.2.2.1]
  have tailReferences : references tail = references next.rest := by
    rcases opens with ⟨-, rfl⟩ | ⟨-, rfl⟩
    · exact references_cons_of_ne bracket.2.2.1 _
    · rfl
  rw [rest, references_cons_of_ne sigil, quoted]
  rcases references_key isKey with plain | ⟨word, filled, chars, rfl, inFront⟩
  · exact .inl ⟨[], by rw [plain, tailReferences]; rfl, by rw [plain, behind]; rfl⟩
  · rw [inFront, inFront, tailReferences, behind, List.takeWhile_cons_of_neg (by simp [bracket]),
      List.append_nil]
    -- In brackets the word of a key ends at the bracket already.
    rcases opens with ⟨rfl, rfl⟩ | ⟨rfl, rfl⟩
    · have noWord : isWord ']' = false := by decide
      exact .inl ⟨[word], by simp [noWord], rfl⟩
    · exact .inr ⟨word, filled, chars, ends, inChain, rfl, rfl, rfl⟩

/-- The rewriter keeps every reference in its place, all of it or its beginning. -/
theorem references_output (reading : Reading) :
    List.Forall₂ IsCut (references reading.rest) (references reading.output) := by
  have same (words : List (List Char)) : List.Forall₂ IsCut words words :=
    List.forall₂_same.2 fun word _ => .inl rfl
  induction reading using movewise with
  | ended inChain brackets =>
    rw [output_nil]
    exact .nil
  | moved reading written next move ih =>
    rcases move.references_eq with
      ⟨front, before, after⟩ | ⟨word, filled, chars, ends, -, -, before, after⟩
    · rw [before, after]
      exact List.rel_append (same front) ih
    · rw [before, after]
      have cut : (word ++ next.rest.takeWhile isWord).takeWhile isNameChar = word := by
        refine takeWhile_append_of_ends chars fun c first => ?_
        cases rest : next.rest with
        | nil => simp [rest] at first
        | cons d behind =>
          have endsHere := ends d (by rw [rest]; rfl)
          rw [rest, List.takeWhile_cons] at first
          split at first
          · cases first
            exact endsHere
          · cases first
      exact .cons (.inr ⟨cut.symm, filled⟩) ih

theorem HasPlaceholder.append_left (has : HasPlaceholder text) (front : List Char) :
    HasPlaceholder (front ++ text) := by
  obtain ⟨name, listed, before, after, rfl, ends⟩ := has
  exact ⟨name, listed, front ++ before, after, by rw [List.append_assoc], ends⟩

/-- A key that is cut down to a placeholder is one in the output. -/
theorem CutsPlaceholder.hasPlaceholder (cuts : CutsPlaceholder reading) :
    HasPlaceholder reading.output := by
  induction cuts with
  | @here brackets name after listed goesOn =>
    obtain ⟨c, first, word, ends⟩ := goesOn
    have identifier := isIdentifier_of_mem_bindingNames listed
    have isKey : IsKey ('$' :: name) := ⟨name, identifier.ne_nil, identifier.2, .inr rfl⟩
    have stops : EndsKey after := by
      intro d head
      cases Option.mem_unique head first
      exact ⟨ends, isQuote_of_isWord word⟩
    have move : Move ⟨true, brackets, '.' :: ('$' :: name ++ after)⟩ (quotedKey ('$' :: name))
        ⟨true, brackets, after⟩ := .subscript (.inr rfl) (takeSubscript?_dotted isKey stops)
    refine ⟨name, listed, ['[', '"'], '"' :: ']' :: (Reading.mk true brackets after).output, ?_, ?_⟩
    · rw [← List.cons_append, move.output_eq]
      simp [quotedKey]
    · rintro c ⟨⟩
      decide
  | later move cuts ih =>
    rw [move.output_eq]
    exact ih.append_left _

/-- A placeholder that the rewriter writes stood in the text, unless a key was cut down
    to it. -/
theorem hasPlaceholder_or_cuts (has : HasPlaceholder reading.output) :
    HasPlaceholder reading.rest ∨ CutsPlaceholder reading := by
  induction reading using movewise with
  | ended inChain brackets =>
    rw [output_nil] at has
    exact .inl has
  | moved reading written next move ih =>
    obtain ⟨name, listed, inside⟩ := hasPlaceholder_iff.1 has
    have behind (later : name ∈ references next.output)
        (kept : ∀ word ∈ references next.rest, word ∈ references reading.rest) :
        HasPlaceholder reading.rest ∨ CutsPlaceholder reading := by
      rcases ih (hasPlaceholder_iff.2 ⟨name, listed, later⟩) with has | cuts
      · obtain ⟨other, isName, inRest⟩ := hasPlaceholder_iff.1 has
        exact .inl (hasPlaceholder_iff.2 ⟨other, isName, kept other inRest⟩)
      · exact .inr (.later move cuts)
    rcases move.references_eq with
      ⟨front, before, after⟩ | ⟨word, filled, chars, ends, inChain, shape, before, after⟩
    · rw [after, List.mem_append] at inside
      rcases inside with here | later
      · exact .inl (hasPlaceholder_iff.2 ⟨name, listed, before ▸ List.mem_append_left _ here⟩)
      · exact behind later fun word inRest => before ▸ List.mem_append_right _ inRest
    · rw [after, List.mem_cons] at inside
      rcases inside with rfl | later
      -- What is left of the key is a placeholder; so was the key, or it went on.
      · by_cases goesOn : ∃ c ∈ next.rest.head?, isWord c = true
        · obtain ⟨c, first, isWord⟩ := goesOn
          obtain ⟨inChain', brackets, rest⟩ := reading
          cases inChain
          cases shape
          exact .inr (.here listed ⟨c, first, isWord, ends c first⟩)
        · refine .inl ⟨name, listed, ['.'], next.rest, shape, ?_⟩
          simpa using goesOn
      · exact behind later fun other inRest => before ▸ List.mem_cons_of_mem _ inRest

/-- A placeholder of the text is too short to be cut down. -/
theorem HasPlaceholder.output (has : HasPlaceholder reading.rest) :
    HasPlaceholder reading.output := by
  obtain ⟨name, listed, inside⟩ := hasPlaceholder_iff.1 has
  obtain ⟨kept, inOutput, cut⟩ := exists_of_mem_left (references_output reading) inside
  have chars := (isIdentifier_of_mem_bindingNames listed).2
  rw [IsCut, List.takeWhile_eq_self_iff.2 chars] at cut
  obtain rfl : kept = name := cut.elim id And.left
  exact hasPlaceholder_iff.2 ⟨_, listed, inOutput⟩

/-- What the rewriter writes has a placeholder when the text has one, or when a key is
    cut down to one. -/
theorem hasPlaceholder_output_iff (reading : Reading) :
    HasPlaceholder reading.output ↔ HasPlaceholder reading.rest ∨ CutsPlaceholder reading :=
  ⟨hasPlaceholder_or_cuts, fun either => either.elim HasPlaceholder.output CutsPlaceholder.hasPlaceholder⟩

/-! ## The parts of a chain -/

theorem isWord_of_isBlank {c : Char} (blank : isBlank c = true) : isWord c = false := by
  have codes : ∀ code ∈ List.range' 9 5 ++ List.range' 0x2000 11 ++
      [0x20, 0x85, 0xA0, 0x1680, 0x2028, 0x2029, 0x202F, 0x205F, 0x3000],
      isWord (Char.ofNat code) = false := by decide +kernel
  have here := codes c.toNat ?_
  · rwa [Char.ofNat_toNat] at here
  · simp only [isBlank, Bool.or_eq_true, Bool.and_eq_true, decide_eq_true_eq, beq_iff_eq] at blank
    simp only [List.mem_append, List.mem_range'_1, List.mem_cons, List.not_mem_nil, or_false]
    omega

theorem not_mem_of_blank {blanks : List Char} (blank : ∀ c ∈ blanks, isBlank c = true) :
    '$' ∉ blanks := by
  intro inside
  have noBlank : isBlank '$' = false := by decide
  cases noBlank.symm.trans (blank '$' inside)

theorem references_trimEnd (text : List Char) : references (trimEnd text) = references text := by
  obtain ⟨blanks, blank, split⟩ : ∃ blanks, (∀ c ∈ blanks, isBlank c = true) ∧
      trimEnd text ++ blanks = text :=
    ⟨text.rtakeWhile isBlank, fun c inside => List.mem_rtakeWhile_imp inside,
      List.rdropWhile_append_rtakeWhile ..⟩
  have apart : ∀ c ∈ blanks.head?, isWord c = false :=
    fun c first => isWord_of_isBlank (blank c (List.mem_of_mem_head? first))
  have whole : references (trimEnd text ++ blanks) = references (trimEnd text) ++ references blanks :=
    references_append apart
  rw [split, references_of_not_mem (not_mem_of_blank blank), List.append_nil] at whole
  exact whole.symm

theorem references_trim (text : List Char) : references (trim text) = references text := by
  have blank : ∀ c ∈ text.takeWhile isBlank, isBlank c = true :=
    fun c inside => List.mem_takeWhile_imp inside
  have whole := references_append_of_not_mem (not_mem_of_blank blank) (text.dropWhile isBlank)
  rw [List.takeWhile_append_dropWhile] at whole
  rw [trim, references_trimEnd, whole, trimStart]

/-- Text behind a separator adds its own references. -/
theorem references_append_cons {c : Char} (separator : isWord c = false ∧ c ≠ '$')
    (left right : List Char) :
    references (left ++ c :: right) = references left ++ references right := by
  have apart : ∀ d ∈ (c :: right).head?, isWord d = false := by
    rintro d ⟨⟩
    exact separator.1
  rw [references_append apart, references_cons_of_ne separator.2]

theorem references_parseModifier (written : List Char) :
    references (parseModifier written).1 ++ (parseModifier written).2.toList.flatMap references =
      references written := by
  unfold parseModifier
  dsimp only
  cases split : splitColon? (trim written) with
  | none => simp [references_trim]
  | some parts =>
    obtain ⟨name, arguments⟩ := parts
    have colon : isWord ':' = false ∧ ':' ≠ '$' := by decide
    have whole := references_append_cons colon name arguments
    rw [splitColon?_append split, references_trim] at whole
    simp [whole, references_trimEnd]

/-- The pieces of a chain, with pipes between them, are the chain. -/
theorem flatMap_chainPieces (previous : Option Char) (marked : List (Char × Bool)) :
    ∃ piece others, chainPieces previous marked = piece :: others ∧
      piece ++ others.flatMap ('|' :: ·) = marked.map Prod.fst := by
  induction marked generalizing previous with
  | nil => exact ⟨[], [], rfl, rfl⟩
  | cons marking rest ih =>
    obtain ⟨c, outside⟩ := marking
    obtain ⟨piece, others, pieces, whole⟩ := ih (some c)
    rw [chainPieces, pieces]
    dsimp only
    split
    · rename_i lone
      obtain rfl : c = '|' := by
        simp only [Bool.and_eq_true, decide_eq_true_eq] at lone
        exact lone.1.1
      exact ⟨[], piece :: others, rfl, by simp [← whole]⟩
    · exact ⟨c :: piece, others, rfl, by simp [← whole]⟩

end Stencil.Expr

namespace Stencil

/-- The texts of an expression that come from a template, as it is read from inside out:
    its code, and the names and arguments of its modifiers. -/
def Expr.texts : Expr → List (List Char)
  | .code text => [text]
  | .modifier name target arguments => target.texts ++ name :: arguments.toList
  | .escape inner _ => inner.texts
  | .ternary condition ifTrue ifFalse => condition.texts ++ ifTrue.texts ++ ifFalse.texts
  | .call _ => []
  | .callWith _ arguments => arguments.texts

end Stencil

namespace Stencil.Expr

open Stencil.Text

theorem head_pieces (pieces : List (List Char)) :
    ∀ c ∈ (pieces.flatMap ('|' :: ·)).head?, isWord c = false := by
  cases pieces with
  | nil => simp
  | cons piece pieces =>
    rintro c ⟨⟩
    decide

theorem references_applied (target : Expr) (modifiers : List (List Char)) :
    (modifiers.foldl applyModifier target).texts.flatMap references =
      target.texts.flatMap references ++ references (modifiers.flatMap ('|' :: ·)) := by
  induction modifiers generalizing target with
  | nil => simp [references]
  | cons written modifiers ih =>
    rw [List.foldl_cons, ih, List.flatMap_cons, List.cons_append,
      references_cons_of_ne (by decide), references_append (head_pieces modifiers),
      ← references_parseModifier written]
    simp [applyModifier, texts]

/-- The parts of a chain have the references of the text they stand for. -/
theorem references_composeModifiers (text : List Char) :
    (composeModifiers text).texts.flatMap references = references text := by
  unfold composeModifiers splitChain?
  by_cases noChain : startsWithOr (mark text) = true
  · simp [noChain, texts]
  · obtain ⟨base, modifiers, pieces, whole⟩ := flatMap_chainPieces none (mark text)
    rw [mark, map_fst_markFrom] at whole
    simp only [if_neg noChain, pieces]
    rw [references_applied, ← whole, references_append (head_pieces modifiers)]
    simp [texts, references_trimEnd]

theorem hasPlaceholder_texts_iff {expr : Expr}
    (same : expr.texts.flatMap references = references text) :
    (∃ part ∈ expr.texts, HasPlaceholder part) ↔ HasPlaceholder text := by
  simp only [hasPlaceholder_iff, ← same, List.mem_flatMap]
  constructor
  · rintro ⟨part, listed, name, isName, inside⟩
    exact ⟨name, isName, part, listed, inside⟩
  · rintro ⟨name, isName, part, listed, inside⟩
    exact ⟨part, listed, name, isName, inside⟩

/-! ## All steps -/

/-- What becomes of a reference at a level: placeholders are numbered, and other names
    stay, or are cut down to their beginning in ASCII. -/
def IsPlaced (level : Nat) (word kept : List Char) : Prop :=
  kept = numbered level word ∨ word ∉ bindingNames ∧ kept = word.takeWhile isNameChar ∧ kept ≠ []

/-- How an expression that a text is resolved to at a level refers to variables. -/
structure IsPlacedAt (level : Nat) (text : List Char) (expr : Expr) : Prop where
  resolved : ∃ charset?, expr = (resolve text level charset?).expr
  references : List.Forall₂ (IsPlaced level) (references text)
    (expr.texts.flatMap Expr.references)
  /-- In a loop a placeholder is left only where a key was cut down to one. -/
  placeholder_iff : level ≠ 0 → ((∃ part ∈ expr.texts, HasPlaceholder part) ↔
    CutsPlaceholder ⟨false, [], renameBindings level text⟩)

theorem IsCut.isPlaced {level : Nat} {word kept : List Char}
    (cut : IsCut (numbered level word) kept) :
    IsPlaced level word kept := by
  by_cases listed : word ∈ bindingNames
  · have identifier := (isIdentifier_of_mem_bindingNames listed).numbered level
    have whole : (numbered level word).takeWhile isNameChar = numbered level word :=
      List.takeWhile_eq_self_iff.2 identifier.2
    rw [IsCut, whole] at cut
    exact .inl (cut.elim id And.left)
  · have same : numbered level word = word := if_neg fun both => listed both.1
    rw [IsCut, same] at cut
    rw [IsPlaced, same]
    exact cut.imp_right fun shorter => ⟨listed, shorter⟩

theorem CutsPlaceholder.hasVariable {reading : Reading} (cuts : CutsPlaceholder reading) :
    hasVariable reading.rest = true := by
  induction cuts with
  | @here brackets name after listed goesOn =>
    have named := (isIdentifier_of_mem_bindingNames listed).startsName_append after
    simp [Expr.hasVariable, named]
  | @later reading next written move cuts ih =>
    refine hasVariable_mono (List.IsSuffix.isInfix ?_) ih
    rcases move.copies_or_quotes with copied | ⟨opener, key, tail, rest, -, -, -, -, opens⟩
    · exact ⟨written, copied.symm⟩
    · rcases opens with ⟨-, rfl⟩ | ⟨-, rfl⟩
      · exact ⟨opener :: (key ++ [']']), by simp [rest]⟩
      · exact ⟨opener :: key, by simp [rest]⟩

theorem not_hasPlaceholder_renameBindings {level : Nat} (inside : level ≠ 0) (text : List Char) :
    ¬ HasPlaceholder (renameBindings level text) := by
  rw [hasPlaceholder_iff, references_renameBindings]
  rintro ⟨name, listed, inText⟩
  obtain ⟨word, -, rfl⟩ := List.mem_map.1 inText
  exact numbered_not_mem_bindingNames inside word listed

theorem texts_resolve {text : List Char} {level : Nat}
    (referring : hasVariable (renameBindings level text) = true) (charset? : Option (List Char)) :
    (resolve text level charset?).expr.texts =
      (composeModifiers (quoteSubscripts (renameBindings level text))).texts := by
  rw [resolve, if_pos referring]
  cases charset? with
  | none => rfl
  | some charset =>
    dsimp only
    split <;> rfl

/-- A resolved expression has the references of its text in their order: placeholders
    have the level, and other names are as they were but for a cut at the end of a key.
    In a loop no placeholder is left, unless a key is cut down to one. -/
theorem isPlacedAt_resolve (text : List Char) (level : Nat) (charset? : Option (List Char)) :
    IsPlacedAt level text (resolve text level charset?).expr := by
  have numberedOnly (inside : level ≠ 0) := not_hasPlaceholder_renameBindings inside text
  by_cases referring : hasVariable (renameBindings level text) = true
  · have output := references_output ⟨false, [], renameBindings level text⟩
    have placeholders := hasPlaceholder_output_iff ⟨false, [], renameBindings level text⟩
    have parts : (resolve text level charset?).expr.texts.flatMap Expr.references =
        Expr.references (quoteSubscripts (renameBindings level text)) := by
      rw [texts_resolve referring, references_composeModifiers]
    refine ⟨⟨charset?, rfl⟩, ?_, fun inside => ?_⟩
    · rw [references_renameBindings] at output
      rw [parts]
      exact (List.forall₂_map_left_iff.1 output).imp fun word kept => IsCut.isPlaced
    · rw [hasPlaceholder_texts_iff parts]
      exact placeholders.trans (or_iff_right (numberedOnly inside))
  · have plain : (resolve text level charset?).expr = .code (renameBindings level text) := by
      rw [resolve, if_neg referring]
    rw [plain]
    refine ⟨⟨charset?, plain.symm⟩, ?_, fun inside => ?_⟩
    · simp only [texts, List.flatMap_cons, List.flatMap_nil, List.append_nil,
        references_renameBindings]
      exact List.forall₂_map_right_iff.2 (List.forall₂_same.2 fun word _ => .inl rfl)
    · simp only [texts, List.mem_singleton, exists_eq_left]
      exact iff_of_false (numberedOnly inside) fun cuts => referring cuts.hasVariable

end Stencil.Expr
