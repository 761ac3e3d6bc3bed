import Mathlib.Data.List.DropRight
import Stencil.Proofs.HostReading

/-! # XML declarations

An XML declaration in a text is printed by an `echo` of a string in single quotes.
Its body is placed between the quotes after the backslashes are taken off, not put
in front of the characters that need one.  So the host reads the declaration back
exactly if its body has no quote and no backslash; a quote of the body can end the
string, and what is behind it is run.

* `readSingle?` — a string in single quotes as the host reads it;
* `sanitize_append` — the place of a declaration in an inert text;
* `EscapesQuotes` — strings that go on to the quote written behind them;
* `sanitize_declaration` — which declarations are read back.
-/

namespace Stencil.Php

open Stencil.Text

/-! ## Strings in single quotes -/

/-- A string in single quotes as the host reads it behind the first quote: its value,
    and the code behind its last quote.  A backslash stands for itself unless another
    one or a quote follows it. -/
def readSingle? : List Char → Option (List Char × List Char)
  | [] => none
  | '\\' :: '\\' :: rest => (readSingle? rest).map fun (value, after) => ('\\' :: value, after)
  | '\\' :: '\'' :: rest => (readSingle? rest).map fun (value, after) => ('\'' :: value, after)
  | c :: rest =>
    if c = '\'' then some ([], rest)
    else (readSingle? rest).map fun (value, after) => (c :: value, after)

section Reading

variable {text value after : List Char}

/-- A string has at least as many characters as its value. -/
theorem length_readSingle? (read : readSingle? text = some (value, after)) :
    value.length + 1 + after.length ≤ text.length := by
  fun_induction readSingle? text generalizing value with
  | case1 => cases read
  | case2 rest ih | case3 rest ih =>
    obtain ⟨⟨inner, _⟩, deeper, same⟩ := Option.map_eq_some_iff.1 read
    cases same
    have := ih deeper
    simp only [List.length_cons]
    omega
  | case4 c rest =>
    cases read
    simp only [List.length_nil, List.length_cons]
    omega
  | case5 c rest _ _ _ ih =>
    obtain ⟨⟨inner, _⟩, deeper, same⟩ := Option.map_eq_some_iff.1 read
    cases same
    have := ih deeper
    simp only [List.length_cons]
    omega

/-- What is written with backslashes where they are needed is read back. -/
theorem readSingle?_quoteSingle (text after : List Char) :
    readSingle? (quoteSingle text ++ '\'' :: after) = some (text, after) := by
  induction text with
  | nil => rfl
  | cons c rest ih =>
    have step : quoteSingle (c :: rest) =
        (if c = '\\' || c = '\'' then ['\\', c] else [c]) ++ quoteSingle rest := rfl
    by_cases slash : c = '\\'
    · subst slash
      simp [step, readSingle?, ih]
    · by_cases quote : c = '\''
      · subst quote
        simp [step, readSingle?, ih]
      · simp [step, slash, quote, readSingle?, ih]

theorem quoteSingle_of_plain (noQuote : '\'' ∉ text) (noSlash : '\\' ∉ text) :
    quoteSingle text = text := by
  induction text with
  | nil => rfl
  | cons c rest ih =>
    simp only [List.mem_cons, not_or] at noQuote noSlash
    have step : quoteSingle (c :: rest) =
        (if c = '\\' || c = '\'' then ['\\', c] else [c]) ++ quoteSingle rest := rfl
    rw [step, ih noQuote.2 noSlash.2, if_neg (by simp [Ne.symm noQuote.1, Ne.symm noSlash.1])]
    rfl

theorem readSingle?_of_plain (noQuote : '\'' ∉ text) (noSlash : '\\' ∉ text) (after : List Char) :
    readSingle? (text ++ '\'' :: after) = some (text, after) := by
  have read := readSingle?_quoteSingle text after
  rwa [quoteSingle_of_plain noQuote noSlash] at read

end Reading

/-! ## Where a string ends -/

/-- The number of backslashes at the end of a text. -/
def slashes (text : List Char) : Nat := (text.rtakeWhile (· == '\\')).length

/-- Whether every quote of a text is taken for a character of its string, which it is
    behind an odd number of backslashes. -/
def EscapesQuotes (text : List Char) : Prop :=
  ∀ front back, text = front ++ '\'' :: back → slashes front % 2 = 1

section Ends

variable {text unit front value after : List Char}

theorem slashes_append (left right : List Char) :
    slashes (left ++ right) =
      if right.all (· == '\\') then slashes left + right.length else slashes right := by
  have all : (right.reverse.takeWhile (· == '\\')).length = right.reverse.length ↔
      right.all (· == '\\') = true := by
    constructor
    · intro same
      have whole := (List.takeWhile_prefix (· == '\\')).eq_of_length same
      simpa using List.takeWhile_eq_self_iff.1 whole
    · intro slash
      rw [List.takeWhile_eq_self_iff.2 (by simpa using slash)]
  unfold slashes List.rtakeWhile
  rw [List.reverse_append, List.takeWhile_append]
  by_cases slash : right.all (· == '\\') = true
  · rw [if_pos (all.2 slash), if_pos slash]
    simp [Nat.add_comm]
  · rw [if_neg (mt all.1 slash), if_neg slash]

/-- A stretch with an even number of backslashes at its end escapes nothing behind it. -/
theorem slashes_append_mod (apart : slashes unit % 2 = 0 ∨ ∃ c ∈ front, c ≠ '\\') :
    slashes (unit ++ front) % 2 = slashes front % 2 := by
  have own := slashes_append [] front
  rw [List.nil_append] at own
  rw [slashes_append]
  split
  · rename_i all
    rw [if_pos all] at own
    rcases apart with even | ⟨c, listed, other⟩
    · have none : slashes [] = 0 := rfl
      omega
    · exact absurd (by simpa using List.all_eq_true.1 all c listed) other
  · rfl

theorem escapesQuotes_append (inner : EscapesQuotes unit)
    (apart : slashes unit % 2 = 0 ∨ ∃ c ∈ text.head?, c ≠ '\\' ∧ c ≠ '\'') :
    EscapesQuotes (unit ++ text) ↔ EscapesQuotes text := by
  -- What stands in front of a quote of the text begins like the text.
  have mod (front back : List Char) (split : text = front ++ '\'' :: back) :
      slashes (unit ++ front) % 2 = slashes front % 2 := by
    apply slashes_append_mod
    refine apart.imp_right ?_
    rintro ⟨c, first, noSlash, noQuote⟩
    cases front with
    | nil =>
      rw [split] at first
      cases first
      exact absurd rfl noQuote
    | cons d front =>
      rw [split] at first
      cases first
      exact ⟨c, .head _, noSlash⟩
  constructor
  · intro escapes front back split
    rw [← mod front back split]
    exact escapes (unit ++ front) back (by rw [split, List.append_assoc])
  · intro escapes front back split
    rcases List.append_eq_append_iff.1 split with ⟨rest, rfl, inText⟩ | ⟨rest, inUnit, behind⟩
    · rw [mod rest back inText]
      exact escapes rest back inText
    · cases rest with
      | nil =>
        obtain rfl : unit = front := by simpa using inUnit
        have empty : slashes [] % 2 = 1 := escapes [] back (by simpa using behind.symm)
        cases empty
      | cons c rest =>
        obtain ⟨rfl, -⟩ := List.cons.inj behind
        exact inner front rest inUnit

/-- A stretch that is read as one character changes nothing about the end. -/
theorem ends_append {c : Char}
    (reads : readSingle? (unit ++ (text ++ '\'' :: after)) =
      (readSingle? (text ++ '\'' :: after)).map fun (value, after) => (c :: value, after))
    (inner : EscapesQuotes unit)
    (apart : slashes unit % 2 = 0 ∨ ∃ c ∈ text.head?, c ≠ '\\' ∧ c ≠ '\'')
    (ends : (∃ value, readSingle? (text ++ '\'' :: after) = some (value, after)) ↔
      EscapesQuotes text ∧ slashes text % 2 = 0) :
    (∃ value, readSingle? (unit ++ text ++ '\'' :: after) = some (value, after)) ↔
      EscapesQuotes (unit ++ text) ∧ slashes (unit ++ text) % 2 = 0 := by
  have mod : slashes (unit ++ text) % 2 = slashes text % 2 := by
    apply slashes_append_mod
    refine apart.imp_right ?_
    rintro ⟨c, first, noSlash, -⟩
    exact ⟨c, List.mem_of_mem_head? first, noSlash⟩
  rw [escapesQuotes_append inner apart, mod, ← ends, List.append_assoc, reads]
  simp

theorem slashes_of_not_mem (plain : '\\' ∉ text) : slashes text = 0 := by
  cases text using List.reverseRecOn with
  | nil => rfl
  | append_singleton text c =>
    have other : c ≠ '\\' := by
      rintro rfl
      simp at plain
    simp [slashes, List.rtakeWhile, other]

theorem escapesQuotes_of_not_mem (plain : '\'' ∉ text) : EscapesQuotes text := by
  rintro front back rfl
  exact absurd (List.mem_append_right front (.head back)) plain

/-- A string ends at the quote behind a text exactly if the text escapes its own
    quotes and not that one. -/
theorem readSingle?_ends_iff :
    (∃ value, readSingle? (text ++ '\'' :: after) = some (value, after)) ↔
      EscapesQuotes text ∧ slashes text % 2 = 0 := by
  fun_induction readSingle? text with
  | case1 => simp [readSingle?, EscapesQuotes, slashes]
  | case2 rest ih =>
    have inner : EscapesQuotes ['\\', '\\'] := escapesQuotes_of_not_mem (by decide)
    exact ends_append rfl inner (.inl rfl) ih
  | case3 rest ih =>
    have inner : EscapesQuotes ['\\', '\''] := by
      rintro (_ | ⟨_, _ | ⟨_, _⟩⟩) back split <;> simp at split
      obtain ⟨rfl, -⟩ := split
      rfl
    exact ends_append rfl inner (.inl rfl) ih
  | case4 rest =>
    -- The string ends at the first character, a quote that nothing escapes.
    have reads : readSingle? ('\'' :: rest ++ '\'' :: after) = some ([], rest ++ '\'' :: after) := rfl
    constructor
    · rintro ⟨value, read⟩
      have longer := congrArg List.length (congrArg Prod.snd (Option.some.inj (reads.symm.trans read)))
      simp at longer
      omega
    · rintro ⟨escapes, -⟩
      have unescaped : slashes [] % 2 = 1 := escapes [] rest rfl
      cases unescaped
  | case5 c rest noPair noEscape noQuote ih =>
    have inner : EscapesQuotes [c] := escapesQuotes_of_not_mem (by simp [Ne.symm noQuote])
    by_cases slash : c = '\\'
    · subst slash
      cases rest with
      | nil =>
        -- The backslash takes the quote behind the text with it.
        constructor
        · rintro ⟨value, read⟩
          obtain ⟨⟨inner, _⟩, deeper, same⟩ := Option.map_eq_some_iff.1 read
          cases same
          have := length_readSingle? deeper
          omega
        · rintro ⟨-, even⟩
          cases even
      | cons d rest =>
        have different : d ≠ '\\' ∧ d ≠ '\'' := by
          constructor
          · rintro rfl
            exact noPair rest rfl rfl
          · rintro rfl
            exact noEscape rest rfl rfl
        refine ends_append (c := '\\') ?_ inner (.inr ⟨d, rfl, different⟩) ih
        simp [readSingle?, different]
    · refine ends_append (c := c) ?_ inner (.inl (by simp [slashes, List.rtakeWhile, slash])) ih
      simp [readSingle?, slash, noQuote]

end Ends

/-! ## Declarations in a text -/

/-- Whether every opening mark of a declaration is closed within a text. -/
def Closes (text : List Char) : Prop :=
  ∀ front back, text = front ++ ("<?xml".toList ++ back) → "?>".toList <:+: back

/-- The string that is written for a declaration, without the quotes around it. -/
def declaration (body : List Char) : List Char :=
  "<?xml ".toList ++ (stripSlashes (neutralize body) ++ " ?>".toList)

theorem declaration_eq (body : List Char) : declaration body =
    "<?xml ".toList ++ (stripSlashes (neutralize body) ++ " ?>".toList) := rfl

section Declarations

variable {text before body after : List Char}

theorem xmlDeclaration?_eq_some_iff :
    xmlDeclaration? text = some (before, body, after) ↔
      ∃ inside, splitFirst? "<?xml".toList text = some (before, inside) ∧
        splitFirst? "?>".toList inside = some (body, after) := by
  simp only [xmlDeclaration?, Option.bind_eq_bind, Option.bind_eq_some_iff]
  constructor
  · rintro ⟨⟨start, inside⟩, opened, ⟨middle, rest⟩, closed, same⟩
    cases same
    exact ⟨inside, opened, closed⟩
  · rintro ⟨inside, opened, closed⟩
    exact ⟨(before, inside), opened, (body, after), closed, rfl⟩

theorem xmlDeclaration?_eq (opening : ¬ "<?xml".toList <:+: before)
    (closing : ¬ "?>".toList <:+: body) (after : List Char) :
    xmlDeclaration? (before ++ ("<?xml".toList ++ (body ++ ("?>".toList ++ after)))) =
      some (before, body, after) := by
  refine xmlDeclaration?_eq_some_iff.2 ⟨body ++ ("?>".toList ++ after), ?_, ?_⟩
  · apply splitFirst?_of_untouched (by decide)
    apply untouched_of_absent opening
    rintro c ⟨⟩
    decide
  · apply splitFirst?_of_untouched (by decide)
    apply untouched_of_absent closing
    rintro c ⟨⟩
    decide

theorem xmlDeclaration?_append_right (found : xmlDeclaration? text = some (before, body, after))
    (more : List Char) : xmlDeclaration? (text ++ more) = some (before, body, after ++ more) := by
  obtain ⟨inside, opened, closed⟩ := xmlDeclaration?_eq_some_iff.1 found
  refine xmlDeclaration?_eq_some_iff.2 ⟨inside ++ more, ?_, ?_⟩
  · exact splitFirst?_append_right opened (by decide) more
  · exact splitFirst?_append_right closed (by decide) more

/-- A text in which every declaration is closed begins with one or has none. -/
theorem Closes.not_infix (own : Closes text) (none : xmlDeclaration? text = none) :
    ¬ "<?xml".toList <:+: text := by
  intro inside
  obtain ⟨⟨front, back⟩, opened⟩ := Option.isSome_iff_exists.1 (occurs_iff.2 inside)
  have split := splitFirst?_append opened
  rw [List.append_assoc] at split
  obtain ⟨⟨body, after⟩, closed⟩ := Option.isSome_iff_exists.1 (occurs_iff.2 (own _ _ split.symm))
  rw [xmlDeclaration?_eq_some_iff.2 ⟨back, opened, closed⟩] at none
  cases none

theorem closes_of_not_infix (plain : ¬ "<?xml".toList <:+: text) : Closes text := by
  rintro front back rfl
  exact absurd ⟨front, back, by simp⟩ plain

theorem Closes.suffix (own : Closes text) (inside : after <:+ text) : Closes after := by
  obtain ⟨front, rfl⟩ := inside
  rintro start back rfl
  exact own (front ++ start) back (by simp)

/-- A declaration stands between what is written for the text in front of it and
    for the text behind it. -/
theorem sanitize_append (own : Closes before) (closing : ¬ "?>".toList <:+: body)
    (after : List Char) :
    sanitize (before ++ ("<?xml".toList ++ (body ++ ("?>".toList ++ after)))) =
      sanitize before ++
        ("<?php echo '".toList ++ (declaration body ++ '\'' :: ("; ?>".toList ++ sanitize after))) := by
  induction before using sanitize.induct with
  | case1 before start inner rest found ih =>
    have behind : rest <:+ before := by
      refine ⟨start ++ ("<?xml".toList ++ (inner ++ "?>".toList)), ?_⟩
      simpa using xmlDeclaration?_append found
    rw [sanitize_of_some (xmlDeclaration?_append_right found _), ih (own.suffix behind),
      sanitize_of_some found]
    simp only [List.append_assoc]
  | case2 before none =>
    have first := xmlDeclaration?_eq (own.not_infix none) closing after
    rw [sanitize_of_some first, sanitize_of_none none, declaration_eq]
    simp

/-! ## Declarations read back -/

theorem stripSlashes_of_not_mem (plain : '\\' ∉ text) : stripSlashes text = text := by
  fun_induction stripSlashes text with
  | case1 | case2 => exact absurd (.head _) plain
  | case3 c rest _ _ ih => rw [ih (fun inside => plain (.tail _ inside))]
  | case4 => rfl

theorem length_stripSlashes_le (text : List Char) : (stripSlashes text).length ≤ text.length := by
  fun_induction stripSlashes text with
  | case1 c rest ih =>
    simp only [List.length_cons]
    omega
  | case2 | case4 => simp
  | case3 c rest _ _ ih => simpa using ih

/-- Taking the backslashes off makes a text shorter. -/
theorem length_stripSlashes_lt (slash : '\\' ∈ text) :
    (stripSlashes text).length < text.length := by
  fun_induction stripSlashes text with
  | case1 c rest ih =>
    have := length_stripSlashes_le rest
    simp only [List.length_cons]
    omega
  | case2 => simp
  | case3 c rest noPair alone ih =>
    cases slash with
    | head =>
      cases rest with
      | nil => exact absurd rfl (alone rfl)
      | cons d rest => exact absurd rfl (noPair d rest rfl)
    | tail _ inside => simpa using ih inside
  | case4 => cases slash

theorem mem_neutralize_iff {c : Char} (listed : c ∈ unmarked) : c ∈ neutralize text ↔ c ∈ text := by
  rw [← List.count_pos_iff, ← List.count_pos_iff, count_neutralize text listed]

theorem escapesQuotes_append_plain (plain : '\'' ∉ after) :
    EscapesQuotes (text ++ after) ↔ EscapesQuotes text := by
  constructor
  · rintro escapes front back rfl
    exact escapes front (back ++ after) (by simp)
  · intro escapes front back split
    rcases List.append_eq_append_iff.1 split with ⟨rest, rfl, inAfter⟩ | ⟨rest, inText, behind⟩
    · exact absurd (inAfter ▸ List.mem_append_right rest (.head back)) plain
    · cases rest with
      | nil =>
        rw [List.nil_append] at behind
        exact absurd (behind ▸ .head back) plain
      | cons c rest =>
        obtain ⟨rfl, -⟩ := List.cons.inj behind
        exact escapes front rest inText

/-- Only a quote of the body can end the string early: nothing in front of the
    body escapes a quote, and the string does not end in a backslash. -/
theorem readSingle?_declaration (body rest : List Char) :
    (∃ value, readSingle? (declaration body ++ '\'' :: rest) = some (value, rest)) ↔
      EscapesQuotes (stripSlashes (neutralize body)) := by
  have finish (text : List Char) : slashes (text ++ " ?>".toList) = 0 := by
    rw [slashes_append, if_neg (by decide)]
    rfl
  have front : EscapesQuotes "<?xml ".toList := escapesQuotes_of_not_mem (by decide)
  have even : slashes "<?xml ".toList % 2 = 0 := by rw [slashes_of_not_mem (by decide)]
  rw [readSingle?_ends_iff, declaration_eq, escapesQuotes_append front (.inl even),
    escapesQuotes_append_plain (by decide), ← List.append_assoc, finish]
  simp

/-- A declaration is read back as it was written exactly if its body has no quote
    and no backslash. -/
theorem readSingle?_declaration_eq_iff (body rest : List Char) :
    readSingle? (declaration body ++ '\'' :: rest) =
        some ("<?xml ".toList ++ (neutralize body ++ " ?>".toList), rest) ↔
      '\'' ∉ body ∧ '\\' ∉ body := by
  have quote : '\'' ∈ neutralize body ↔ '\'' ∈ body := mem_neutralize_iff (by decide)
  have slash : '\\' ∈ neutralize body ↔ '\\' ∈ body := mem_neutralize_iff (by decide)
  rw [← quote, ← slash]
  constructor
  · intro read
    -- With a backslash taken off, the string is too short for its value.
    have noSlash : '\\' ∉ neutralize body := by
      intro inside
      have short := length_stripSlashes_lt inside
      have long := length_readSingle? read
      simp only [declaration_eq, List.length_append, List.length_cons] at long
      omega
    have escapes := (readSingle?_declaration body rest).1 ⟨_, read⟩
    rw [stripSlashes_of_not_mem noSlash] at escapes
    refine ⟨?_, noSlash⟩
    intro inside
    obtain ⟨front, back, split⟩ := List.append_of_mem inside
    have odd := escapes front back split
    rw [split] at noSlash
    rw [slashes_of_not_mem (mt (List.mem_append_left _) noSlash)] at odd
    cases odd
  · rintro ⟨noQuote, noSlash⟩
    rw [declaration_eq, stripSlashes_of_not_mem noSlash]
    apply readSingle?_of_plain
    · simpa using noQuote
    · simpa using noSlash

/-- A declaration is written as an `echo` of a string, in the place of the text it
    stands in.  The host reads the string up to the quote that was written behind it
    exactly if what is left of the body without its backslashes escapes its own
    quotes, and reads the declaration, made inert, exactly if the body has neither. -/
theorem sanitize_declaration (before body after : List Char) (own : Closes before)
    (closing : ¬ "?>".toList <:+: body) :
    sanitize (before ++ ("<?xml".toList ++ (body ++ ("?>".toList ++ after)))) =
        sanitize before ++ ("<?php echo '".toList ++
          (declaration body ++ '\'' :: ("; ?>".toList ++ sanitize after))) ∧
      ((∃ value, readSingle? (declaration body ++ '\'' :: ("; ?>".toList ++ sanitize after)) =
          some (value, "; ?>".toList ++ sanitize after)) ↔
        EscapesQuotes (stripSlashes (neutralize body))) ∧
      (readSingle? (declaration body ++ '\'' :: ("; ?>".toList ++ sanitize after)) =
          some ("<?xml ".toList ++ (neutralize body ++ " ?>".toList),
            "; ?>".toList ++ sanitize after) ↔
        '\'' ∉ body ∧ '\\' ∉ body) :=
  ⟨sanitize_append own closing after, readSingle?_declaration body _,
    readSingle?_declaration_eq_iff body _⟩

/-- A quote of the body ends the string, and what is behind it is code. -/
theorem sanitize_declaration_quoted :
    Closes "a".toList ∧ ¬ "?>".toList <:+: "'.phpinfo().'".toList ∧
      sanitize "a<?xml'.phpinfo().'?>b".toList =
        "a<?php echo '<?xml '.phpinfo().' ?>'; ?>b".toList ∧
      readSingle? "<?xml '.phpinfo().' ?>'; ?>b".toList =
        some ("<?xml ".toList, ".phpinfo().' ?>'; ?>b".toList) ∧
      ¬ EscapesQuotes (stripSlashes (neutralize "'.phpinfo().'".toList)) := by
  have own : Closes "a".toList := closes_of_not_infix (by decide)
  have closing : ¬ "?>".toList <:+: "'.phpinfo().'".toList := by decide
  obtain ⟨written, ends, -⟩ := sanitize_declaration _ _ "b".toList own closing
  have behind : sanitize "b".toList = "b".toList := sanitize_of_none rfl
  have before : sanitize "a".toList = "a".toList := sanitize_of_none rfl
  refine ⟨own, closing, written.trans ?_, rfl, ?_⟩
  · rw [before, behind]
    rfl
  · intro escapes
    obtain ⟨value, read⟩ := ends.2 escapes
    rw [behind] at read
    cases read

end Declarations

end Stencil.Php
