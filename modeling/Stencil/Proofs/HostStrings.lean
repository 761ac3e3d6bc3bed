import Stencil.Proofs.XmlDeclarations
import Stencil.Toml.Number

/-! # Strings that stand for themselves

A text that is placed between quotes as it is may be read as another one.  In single
quotes the host takes a backslash off that stands in front of a backslash or a quote.
In double quotes there are more escapes, some of several characters, and variables.

* `PlainInSingle` / `PlainInDouble` — texts that hold nothing of that kind;
* `readSingle?_eq_iff` — what single quotes keep;
* `escape?` / `readDouble?` — a string in double quotes as the host reads it;
* `readDouble?_eq_iff` — what double quotes keep.
-/

namespace Stencil.Php

open Stencil.Text
open Stencil.Toml (isDigitOf numberOf)

section Splits

variable {d m : Char} {text : List Char} {holds : List Char → List Char → Prop}

/-- The places of a character in a longer text. -/
theorem forall_split_cons :
    (∀ front back, d :: text = front ++ m :: back → holds front back) ↔
      (d = m → holds [] text) ∧
        ∀ front back, text = front ++ m :: back → holds (d :: front) back := by
  constructor
  · intro all
    refine ⟨?_, fun front back split => all (d :: front) back (congrArg (d :: ·) split)⟩
    rintro rfl
    exact all [] text rfl
  · rintro ⟨first, later⟩ front back split
    cases front with
    | nil =>
      obtain ⟨rfl, rfl⟩ := List.cons.inj split
      exact first rfl
    | cons e front =>
      obtain ⟨rfl, inner⟩ := List.cons.inj split
      exact later front back inner

theorem getLast?_cons_of_ne (other : d ≠ m) :
    (d :: text).getLast? = some m ↔ text.getLast? = some m := by
  rw [List.getLast?_cons]
  cases text.getLast? <;> simp [other]

/-- Behind a text without quotes, a string does not end before the first quote. -/
theorem suffix_of_quote {rest after : List Char} (plain : m ∉ text)
    (ends : m :: rest <:+ text ++ m :: after) : rest <:+ after := by
  rcases suffix_append_cases ends with late | ⟨later, filled, inside, same⟩
  · rcases List.suffix_cons_iff.1 late with whole | deeper
    · rw [(List.cons.inj whole).2]
    · exact (List.suffix_cons m rest).trans deeper
  · obtain ⟨first, later, rfl⟩ := List.exists_cons_of_ne_nil filled
    obtain ⟨rfl, -⟩ := List.cons.inj same
    exact absurd (inside.subset (.head _)) plain

/-- A string that ends at the first quote of a text does not end behind the text. -/
theorem ends_before {α : Type} (first value : α) (text after : List Char) :
    some (first, text ++ m :: after) ≠ some (value, after) := by
  intro same
  obtain ⟨-, behind⟩ := Prod.mk.inj (Option.some.inj same)
  have lengths := congrArg List.length behind
  rw [List.length_append, List.length_cons] at lengths
  omega

end Splits

/-! ## Strings in single quotes -/

/-- Texts without quotes in which every backslash stands in front of a character that
    is none. -/
structure PlainInSingle (text : List Char) : Prop where
  quote : '\'' ∉ text
  slash : ∀ front back, text = front ++ '\\' :: back → ∃ c ∈ back.head?, c ≠ '\\'

section Single

variable {text after : List Char} {c : Char}

theorem plainInSingle_cons :
    PlainInSingle (c :: text) ↔
      c ≠ '\'' ∧ (c = '\\' → ∃ d ∈ text.head?, d ≠ '\\') ∧ PlainInSingle text := by
  constructor
  · rintro ⟨noQuote, slash⟩
    obtain ⟨first, later⟩ := forall_split_cons.1 slash
    obtain ⟨other, others⟩ := List.ne_and_not_mem_of_not_mem_cons noQuote
    exact ⟨other.symm, first, others, later⟩
  · rintro ⟨other, first, others, later⟩
    exact ⟨List.not_mem_cons_of_ne_of_not_mem other.symm others, forall_split_cons.2 ⟨first, later⟩⟩

theorem suffix_of_readSingle? {value rest : List Char}
    (read : readSingle? text = some (value, rest)) : '\'' :: rest <:+ text := by
  fun_induction readSingle? text generalizing value with
  | case1 => cases read
  | case2 text ih | case3 text ih =>
    obtain ⟨_, deeper, same⟩ := Option.map_eq_some_iff.1 read
    cases same
    exact (ih deeper).trans ((List.suffix_cons _ _).trans (List.suffix_cons _ _))
  | case4 text =>
    cases read
    exact List.suffix_refl _
  | case5 c text _ _ _ ih =>
    obtain ⟨_, deeper, same⟩ := Option.map_eq_some_iff.1 read
    cases same
    exact (ih deeper).trans (List.suffix_cons _ _)

theorem readSingle?_cons (noQuote : c ≠ '\'')
    (apart : c = '\\' → ∃ d ∈ text.head?, d ≠ '\\' ∧ d ≠ '\'') :
    readSingle? (c :: text) = (readSingle? text).map fun (value, after) => (c :: value, after) := by
  by_cases slash : c = '\\'
  · obtain ⟨d, first, other⟩ := apart slash
    obtain ⟨rest, rfl⟩ := List.head?_eq_some_iff.1 first
    simp [readSingle?, slash, other]
  · simp [readSingle?, noQuote, slash]

/-- A string that loses a character is too short for its value. -/
theorem readSingle?_ne_of_fewer (front : List Char) {rest : List Char}
    (fewer : front.length + rest.length < text.length + 1 + after.length) :
    (readSingle? rest).map (fun (value, after) => (front ++ value, after)) ≠
      some (text, after) := by
  intro read
  obtain ⟨⟨value, _⟩, deeper, same⟩ := Option.map_eq_some_iff.1 read
  cases same
  have bound := length_readSingle? deeper
  rw [List.length_append] at fewer
  omega

/-- A string in single quotes is read back, up to the quote behind it, exactly if it
    stands for itself. -/
theorem readSingle?_eq_iff (text after : List Char) :
    readSingle? (text ++ '\'' :: after) = some (text, after) ↔ PlainInSingle text := by
  induction text with
  | nil =>
    have plain : PlainInSingle [] := ⟨by simp, by simp⟩
    simp [readSingle?, plain]
  | cons c text ih =>
    rw [plainInSingle_cons]
    by_cases quote : c = '\''
    · subst quote
      exact iff_of_false (ends_before _ _ text after) fun plain => plain.1 rfl
    by_cases kept : c = '\\' → ∃ d ∈ text.head?, d ≠ '\\' ∧ d ≠ '\''
    · have ahead : c = '\\' → ∃ d ∈ (text ++ '\'' :: after).head?, d ≠ '\\' ∧ d ≠ '\'' := by
        intro slash
        obtain ⟨d, first, other⟩ := kept slash
        exact ⟨d, List.mem_head?_append_of_mem_head? first, other⟩
      have apart : c = '\\' → ∃ d ∈ text.head?, d ≠ '\\' := fun slash =>
        (kept slash).imp fun d found => ⟨found.1, found.2.1⟩
      rw [List.cons_append, readSingle?_cons quote ahead, and_iff_right quote, and_iff_right apart,
        ← ih, Option.map_eq_some_iff]
      simp
    · -- The backslash is taken off the character behind it, be it the last quote.
      obtain ⟨rfl, dropped⟩ := Classical.not_imp.1 kept
      cases text with
      | nil =>
        refine iff_of_false (readSingle?_ne_of_fewer ['\''] (by simp)) fun plain => ?_
        obtain ⟨_, none, -⟩ := plain.2.1 rfl
        cases none
      | cons d rest =>
        have fewer : 1 + (rest ++ '\'' :: after).length <
            ('\\' :: d :: rest).length + 1 + after.length := by
          simp only [List.length_append, List.length_cons]
          omega
        by_cases slash : d = '\\'
        · subst slash
          refine iff_of_false (readSingle?_ne_of_fewer ['\\'] fewer) fun plain => ?_
          obtain ⟨_, ⟨⟩, other⟩ := plain.2.1 rfl
          exact other rfl
        · obtain rfl : d = '\'' := by
            by_contra other
            exact dropped ⟨d, rfl, slash, other⟩
          refine iff_of_false (readSingle?_ne_of_fewer ['\''] fewer) fun plain => ?_
          exact plain.2.2.quote (.head _)

end Single

/-! ## Strings in double quotes -/

/-- The characters that stand for a byte behind a backslash. -/
def namedEscapes : List (Char × UInt8) :=
  [('n', 10), ('t', 9), ('r', 13), ('v', 11), ('e', 27), ('f', 12), ('\\', 92), ('$', 36),
    ('"', 34)]

/-- Whether `x` and a digit name a byte. -/
def NamesByte (c : Char) (rest : List Char) : Prop :=
  c ∈ ['x', 'X'] ∧ rest.head?.any (isDigitOf 16)

/-- Whether `u` and a brace name a code point. -/
def NamesCode (c : Char) (rest : List Char) : Prop := c = 'u' ∧ rest.head? = some '{'

instance (c : Char) (rest : List Char) : Decidable (NamesByte c rest) :=
  inferInstanceAs (Decidable (_ ∧ _))

instance (c : Char) (rest : List Char) : Decidable (NamesCode c rest) :=
  inferInstanceAs (Decidable (_ ∧ _))

/-- Whether a backslash in front of a character makes an escape of it, given what
    follows. -/
def Escapes (c : Char) (rest : List Char) : Prop :=
  c ∈ namedEscapes.map Prod.fst ∨ isDigitOf 8 c ∨ NamesByte c rest ∨ NamesCode c rest

instance (c : Char) (rest : List Char) : Decidable (Escapes c rest) :=
  inferInstanceAs (Decidable (_ ∨ _))

/-- The byte that at most `count` digits denote, modulo its size, and the text behind. -/
def numberedByte (base count : Nat) (text : List Char) : List UInt8 × List Char :=
  let digits := (text.takeWhile (isDigitOf base)).take count
  ([.ofNat (numberOf base digits)], text.drop digits.length)

/-- The bytes of a code point, which may be a surrogate. -/
def codeBytes (code : Nat) : List UInt8 :=
  let tail (n : Nat) : UInt8 := .ofNat (0x80 + n % 64)
  if code < 0x80 then [.ofNat code]
  else if code < 0x800 then [.ofNat (0xC0 + code / 64), tail code]
  else if code < 0x10000 then [.ofNat (0xE0 + code / 4096), tail (code / 64), tail code]
  else [.ofNat (0xF0 + code / 262144), tail (code / 4096), tail (code / 64), tail code]

/-- The bytes of the code point whose digits stand in front of a closing brace, and the
    text behind.  Other digits are an error. -/
def code? (text : List Char) : Option (List UInt8 × List Char) :=
  let digits := text.takeWhile (isDigitOf 16)
  match text.drop digits.length with
  | '}' :: after =>
    if digits = [] ∨ 0x10FFFF < numberOf 16 digits then none
    else some (codeBytes (numberOf 16 digits), after)
  | _ => none

/-- The bytes that a backslash, the character behind it and what belongs to them stand
    for, and the text behind.  A backslash that escapes nothing stands for itself. -/
def escape? (c : Char) (rest : List Char) : Option (List UInt8 × List Char) :=
  match namedEscapes.lookup c with
  | some byte => some ([byte], rest)
  | none =>
    if isDigitOf 8 c then some (numberedByte 8 3 (c :: rest))
    else if NamesByte c rest then some (numberedByte 16 2 rest)
    else if NamesCode c rest then code? rest.tail
    else some (bytes ['\\', c], rest)

/-- Whether a name begins with a character. -/
def beginsName (c : Char) : Bool := c.isAlpha || c == '_' || 0x80 ≤ c.toNat

/-- Whether a character begins a variable, given what follows. -/
def Interpolates (c : Char) (rest : List Char) : Prop :=
  (c = '$' ∧ rest.head?.any fun d => beginsName d || d == '{') ∨
    (c = '{' ∧ rest.head? = some '$')

instance (c : Char) (rest : List Char) : Decidable (Interpolates c rest) :=
  inferInstanceAs (Decidable (_ ∨ _))

section Escapes

variable {c : Char} {text rest after : List Char} {value : List UInt8}

theorem byteLength_le_of_suffix (inside : text <:+ rest) : byteLength text ≤ byteLength rest := by
  obtain ⟨front, rfl⟩ := inside
  rw [byteLength_append]
  exact Nat.le_add_left _ _

theorem length_codeBytes_le (code : Nat) : (codeBytes code).length ≤ 4 := by
  unfold codeBytes
  dsimp only
  split
  · simp
  · split
    · simp
    · split <;> simp

theorem lookup_namedEscapes : namedEscapes.lookup c = none ↔ c ∉ namedEscapes.map Prod.fst := by
  simp only [List.lookup_eq_none_iff, List.mem_map, not_exists, not_and, bne_iff_ne]
  exact forall₂_congr fun pair _ => ne_comm

/-- What stands behind a backslash that escapes nothing is kept. -/
theorem escape?_of_not_escapes (free : ¬ Escapes c rest) :
    escape? c rest = some (bytes ['\\', c], rest) := by
  simp only [Escapes, not_or] at free
  obtain ⟨unnamed, noOctal, noByte, noCode⟩ := free
  unfold escape?
  rw [lookup_namedEscapes.2 unnamed, if_neg noOctal, if_neg noByte, if_neg noCode]

theorem exists_of_code? (read : code? text = some (value, after)) :
    ∃ digits, digits ≠ [] ∧ text = digits ++ '}' :: after ∧ value.length ≤ 4 := by
  unfold code? at read
  dsimp only at read
  split at read
  · rename_i behind split
    split at read
    · cases read
    · rename_i valid
      cases read
      have inside := List.takeWhile_prefix (isDigitOf 16) (l := text)
      refine ⟨_, fun none => valid (.inl none), ?_, length_codeBytes_le _⟩
      rw [← split, List.prefix_iff_eq_append.1 inside]
  · cases read

theorem escape?_suffix (read : escape? c rest = some (value, after)) : after <:+ rest := by
  unfold escape? at read
  split at read
  · cases read
    exact List.suffix_refl _
  split at read
  · rename_i octal
    cases read
    rw [List.takeWhile_cons_of_pos octal]
    exact List.drop_suffix _ rest
  split at read
  · cases read
    exact List.drop_suffix _ rest
  split at read
  · obtain ⟨digits, -, whole, -⟩ := exists_of_code? read
    have inside : after <:+ rest.tail := whole ▸ ⟨digits ++ ['}'], by simp⟩
    exact inside.trans (List.tail_suffix rest)
  · cases read
    exact List.suffix_refl _

/-- An escape is longer than the bytes it stands for. -/
theorem length_escape?_lt (escapes : Escapes c rest) (read : escape? c rest = some (value, after)) :
    value.length + byteLength after < byteLength ('\\' :: c :: rest) := by
  have slash : '\\'.utf8Size = 1 := rfl
  have positive := c.utf8Size_pos
  have single {text : List Char} (byte : UInt8) (count : Nat) (shorter : text <:+ rest) :
      [byte].length + byteLength (text.drop count) < byteLength ('\\' :: c :: rest) := by
    have fewer := byteLength_le_of_suffix ((List.drop_suffix count text).trans shorter)
    simp only [byteLength_cons, slash, List.length_singleton]
    omega
  unfold escape? at read
  split at read
  · cases read
    exact single _ 0 (List.suffix_refl _)
  rename_i unnamed
  split at read
  · rename_i octal
    cases read
    rw [List.takeWhile_cons_of_pos octal]
    exact @single rest _ ((rest.takeWhile (isDigitOf 8)).take 2).length (List.suffix_refl rest)
  split at read
  · cases read
    exact single _ _ (List.suffix_refl _)
  split at read
  · -- A digit, the braces and the letter take four bytes and a code point at most four.
    rename_i names
    obtain ⟨rfl, brace⟩ := names
    obtain ⟨text, rfl⟩ := List.head?_eq_some_iff.1 brace
    obtain ⟨digits, filled, whole, short⟩ := exists_of_code? read
    obtain rfl : text = digits ++ '}' :: after := whole
    have some := List.length_pos_iff.2 filled
    have enough := length_le_byteLength digits
    have sizes : 'u'.utf8Size = 1 ∧ '{'.utf8Size = 1 ∧ '}'.utf8Size = 1 := ⟨rfl, rfl, rfl⟩
    simp only [byteLength_cons, byteLength_append]
    omega
  · rename_i octal byte code
    rcases escapes with named | isOctal | isByte | isCode
    · exact absurd named (lookup_namedEscapes.1 unnamed)
    · exact absurd isOctal octal
    · exact absurd isByte byte
    · exact absurd isCode code

theorem length_escape?_le (read : escape? c rest = some (value, after)) :
    value.length + byteLength after ≤ byteLength ('\\' :: c :: rest) := by
  by_cases escapes : Escapes c rest
  · exact Nat.le_of_lt (length_escape?_lt escapes read)
  · cases (escape?_of_not_escapes escapes).symm.trans read
    rw [length_bytes]
    simp
    omega

end Escapes

/-- A string in double quotes as the host reads it behind the first quote: the bytes it
    stands for, and the code behind its last quote.  A string with a variable in it
    stands for no bytes of its own. -/
def readDouble? : List Char → Option (List UInt8 × List Char)
  | [] => none
  | '"' :: rest => some ([], rest)
  | '\\' :: c :: rest =>
    match _read : escape? c rest with
    | none => none
    | some (value, after) => (readDouble? after).map fun (more, after) => (value ++ more, after)
  | c :: rest =>
    if Interpolates c rest then none
    else (readDouble? rest).map fun (more, after) => (bytes [c] ++ more, after)
termination_by text => text.length
decreasing_by
  · have := (escape?_suffix _read).length_le
    simp only [List.length_cons]
    omega
  · simp

/-- Texts without quotes in which no backslash escapes what is behind it, be it the
    quote behind the text, and no variable begins. -/
structure PlainInDouble (text : List Char) : Prop where
  quote : '"' ∉ text
  slash : ∀ front back, text = front ++ '\\' :: back → ∃ c rest, back = c :: rest ∧ ¬ Escapes c rest
  noVariable : ∀ c front back, text = front ++ c :: back → Interpolates c back →
    c = '{' ∧ front.getLast? = some '\\'

section Double

variable {text after : List Char} {c : Char} {value : List UInt8}

theorem readDouble?_slash (c : Char) (rest : List Char) :
    readDouble? ('\\' :: c :: rest) = (escape? c rest).bind fun (value, after) =>
      (readDouble? after).map fun (more, after) => (value ++ more, after) := by
  rw [readDouble?]
  split
  · rename_i none
    rw [none]
    rfl
  · rename_i found
    rw [found]
    rfl

theorem readDouble?_cons (noQuote : c ≠ '"') (noSlash : c ≠ '\\') (rest : List Char) :
    readDouble? (c :: rest) =
      if Interpolates c rest then none
      else (readDouble? rest).map fun (more, after) => (bytes [c] ++ more, after) := by
  rw [readDouble?]
  · exact noQuote
  · intro _ _ isSlash
    exact absurd isSlash noSlash

/-- A string has at least as many bytes as its value. -/
theorem length_readDouble? (read : readDouble? text = some (value, after)) :
    value.length + 1 + byteLength after ≤ byteLength text := by
  fun_induction readDouble? text generalizing value with
  | case1 => cases read
  | case2 rest =>
    cases read
    have quote : '"'.utf8Size = 1 := rfl
    simp [quote]
  | case3 c rest none => cases read
  | case4 c rest unit behind escaped ih =>
    obtain ⟨⟨more, _⟩, deeper, same⟩ := Option.map_eq_some_iff.1 read
    cases same
    have inner := ih deeper
    have outer := length_escape?_le escaped
    rw [List.length_append]
    omega
  | case5 => cases read
  | case6 c rest noQuote noSlash free ih =>
    obtain ⟨⟨more, _⟩, deeper, same⟩ := Option.map_eq_some_iff.1 read
    cases same
    have inner := ih deeper
    rw [List.length_append, length_bytes]
    simp only [byteLength_cons, byteLength_nil]
    omega

theorem suffix_of_readDouble? {rest : List Char} (read : readDouble? text = some (value, rest)) :
    '"' :: rest <:+ text := by
  fun_induction readDouble? text generalizing value with
  | case1 | case3 | case5 => cases read
  | case2 text =>
    cases read
    exact List.suffix_refl _
  | case4 c text unit behind escaped ih =>
    obtain ⟨_, deeper, same⟩ := Option.map_eq_some_iff.1 read
    cases same
    exact ((ih deeper).trans (escape?_suffix escaped)).trans
      ((List.suffix_cons _ _).trans (List.suffix_cons _ _))
  | case6 c text noQuote noSlash free ih =>
    obtain ⟨_, deeper, same⟩ := Option.map_eq_some_iff.1 read
    cases same
    exact (ih deeper).trans (List.suffix_cons _ _)

/-- An escape in a string makes its value too short for the string. -/
theorem readDouble?_ne_of_escapes {rest : List Char} (escapes : Escapes c rest)
    (whole : '\\' :: c :: rest = text ++ '"' :: after) :
    readDouble? ('\\' :: c :: rest) ≠ some (bytes text, after) := by
  intro read
  rw [readDouble?_slash] at read
  obtain ⟨⟨unit, behind⟩, escaped, deeper⟩ := Option.bind_eq_some_iff.1 read
  obtain ⟨⟨more, _⟩, later, same⟩ := Option.map_eq_some_iff.1 deeper
  simp only [Prod.mk.injEq] at same
  obtain ⟨values, rfl⟩ := same
  -- What follows the escape has no fewer bytes than its value, and the escape has more.
  have inner := length_readDouble? later
  have outer := length_escape?_lt escapes escaped
  have quote : '"'.utf8Size = 1 := rfl
  have lengths := congrArg List.length values
  rw [whole, byteLength_append, byteLength_cons] at outer
  rw [List.length_append, length_bytes] at lengths
  omega

/-- What follows decides nothing about a character in front of a quote. -/
theorem escapes_append : Escapes c (text ++ '"' :: after) ↔ Escapes c text := by
  cases text with
  | nil =>
    have noDigit : isDigitOf 16 '"' = false := rfl
    simp [Escapes, NamesByte, NamesCode, noDigit]
  | cons d text => rfl

theorem interpolates_append : Interpolates c (text ++ '"' :: after) ↔ Interpolates c text := by
  cases text with
  | nil =>
    have noName : beginsName '"' = false := by decide
    simp [Interpolates, noName]
  | cons d text => rfl

theorem plainInDouble_cons (noSlash : c ≠ '\\') :
    PlainInDouble (c :: text) ↔ c ≠ '"' ∧ ¬ Interpolates c text ∧ PlainInDouble text := by
  constructor
  · rintro ⟨noQuote, slash, noVariable⟩
    obtain ⟨other, others⟩ := List.ne_and_not_mem_of_not_mem_cons noQuote
    have free : ¬ Interpolates c text := fun begins => by cases (noVariable c [] text rfl begins).2
    refine ⟨other.symm, free, others, (forall_split_cons.1 slash).2, ?_⟩
    intro d front back split begins
    obtain ⟨brace, last⟩ := (forall_split_cons.1 (noVariable d)).2 front back split begins
    exact ⟨brace, (getLast?_cons_of_ne noSlash).1 last⟩
  · rintro ⟨other, free, others, slash, noVariable⟩
    refine ⟨List.not_mem_cons_of_ne_of_not_mem other.symm others,
      forall_split_cons.2 ⟨fun isSlash => absurd isSlash noSlash, slash⟩, fun d => ?_⟩
    refine forall_split_cons.2 ⟨?_, fun front back split begins => ?_⟩
    · rintro rfl begins
      exact absurd begins free
    · obtain ⟨brace, last⟩ := noVariable d front back split begins
      exact ⟨brace, (getLast?_cons_of_ne noSlash).2 last⟩

theorem plainInDouble_slash :
    PlainInDouble ('\\' :: c :: text) ↔ ¬ Escapes c text ∧ PlainInDouble text := by
  have special (free : ¬ Escapes c text) : c ≠ '"' ∧ c ≠ '\\' ∧ c ≠ '$' := by
    refine ⟨?_, ?_, ?_⟩ <;>
    · rintro rfl
      exact free (.inl (by decide))
  constructor
  · rintro ⟨noQuote, slash, noVariable⟩
    obtain ⟨_, _, same, free⟩ := slash [] (c :: text) rfl
    obtain ⟨rfl, rfl⟩ := List.cons.inj same
    have other := (special free).2.1
    refine ⟨free, fun inside => noQuote (.tail _ (.tail _ inside)), ?_, ?_⟩
    · exact (forall_split_cons.1 (forall_split_cons.1 slash).2).2
    · intro d front back split begins
      obtain ⟨brace, last⟩ :=
        (forall_split_cons.1 (forall_split_cons.1 (noVariable d)).2).2 front back split begins
      rw [List.getLast?_cons_cons] at last
      exact ⟨brace, (getLast?_cons_of_ne other).1 last⟩
  · rintro ⟨free, others, slash, noVariable⟩
    obtain ⟨noQuote, noSlash, noDollar⟩ := special free
    refine ⟨by simp [noQuote.symm, others], ?_, fun d => ?_⟩
    · refine forall_split_cons.2 ⟨fun _ => ⟨c, text, rfl, free⟩, ?_⟩
      exact forall_split_cons.2 ⟨fun isSlash => absurd isSlash noSlash, slash⟩
    · refine forall_split_cons.2 ⟨?_, forall_split_cons.2 ⟨?_, ?_⟩⟩
      · rintro rfl (⟨dollar, -⟩ | ⟨brace, -⟩)
        · cases dollar
        · cases brace
      · rintro rfl (⟨dollar, -⟩ | ⟨brace, -⟩)
        · exact absurd dollar noDollar
        · exact ⟨brace, rfl⟩
      · intro front back split begins
        obtain ⟨brace, last⟩ := noVariable d front back split begins
        rw [List.getLast?_cons_cons]
        exact ⟨brace, (getLast?_cons_of_ne noSlash).2 last⟩

theorem map_readDouble?_eq_iff (unit text after : List Char) :
    (readDouble? (text ++ '"' :: after)).map (fun (more, after) => (bytes unit ++ more, after)) =
        some (bytes (unit ++ text), after) ↔
      readDouble? (text ++ '"' :: after) = some (bytes text, after) := by
  rw [Option.map_eq_some_iff, bytes_append]
  constructor
  · rintro ⟨⟨more, _⟩, read, same⟩
    simp only [Prod.mk.injEq, List.append_cancel_left_eq] at same
    rw [read, same.1, same.2]
  · exact fun read => ⟨_, read, rfl⟩

/-- A string in double quotes is read back, up to the quote behind it, exactly if it
    stands for itself. -/
theorem readDouble?_eq_iff (text after : List Char) :
    readDouble? (text ++ '"' :: after) = some (bytes text, after) ↔ PlainInDouble text := by
  -- A backslash is read together with the character behind it.
  induction size : text.length using Nat.strongRecOn generalizing text with
  | ind n ih =>
    cases text with
    | nil =>
      have plain : PlainInDouble [] := ⟨by simp, by simp, by simp⟩
      exact iff_of_true (by rw [List.nil_append, readDouble?]; rfl) plain
    | cons c rest =>
      rw [List.length_cons] at size
      by_cases slash : c = '\\'
      · subst slash
        cases rest with
        | nil =>
          have escapes : Escapes '"' after := .inl (by decide)
          refine iff_of_false (readDouble?_ne_of_escapes escapes rfl) fun plain => ?_
          obtain ⟨_, _, none, -⟩ := plain.slash [] [] rfl
          cases none
        | cons c rest =>
          rw [List.length_cons] at size
          have later := ih rest.length (by omega) rest rfl
          rw [plainInDouble_slash]
          by_cases escapes : Escapes c rest
          · refine iff_of_false ?_ fun plain => plain.1 escapes
            exact readDouble?_ne_of_escapes (escapes_append.2 escapes) rfl
          · rw [List.cons_append, List.cons_append, readDouble?_slash,
              escape?_of_not_escapes (mt escapes_append.1 escapes), Option.bind_some,
              and_iff_right escapes]
            exact (map_readDouble?_eq_iff ['\\', c] rest after).trans later
      · have later := ih rest.length (by omega) rest rfl
        rw [plainInDouble_cons slash, List.cons_append]
        by_cases quote : c = '"'
        · subst quote
          refine iff_of_false ?_ fun plain => plain.1 rfl
          rw [readDouble?]
          exact ends_before _ _ rest after
        · rw [readDouble?_cons quote slash, and_iff_right quote]
          by_cases begins : Interpolates c rest
          · rw [if_pos (interpolates_append.2 begins)]
            exact iff_of_false (by simp) fun plain => plain.1 begins
          · rw [if_neg (mt interpolates_append.1 begins), and_iff_right begins]
            exact (map_readDouble?_eq_iff [c] rest after).trans later

end Double

end Stencil.Php
