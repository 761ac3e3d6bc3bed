import Stencil.Template.Token
import Stencil.Text.WordCharacter

/-! # Subscripts of variables

Template syntax writes the entries of a variable as `$a.b` or `$a[b]`; host
code wants quoted keys, `$a["b"]`.  `quoteSubscripts` brings every chain of
such segments into that form and leaves everything else alone: strings, empty
segments, and a segment directly in front of a string, which is concatenation.
-/

namespace Stencil.Expr

open Stencil.Template (isQuote)
open Stencil.Text (isNameStart isNameChar)

/-- Reads a string up to the quote that closes it, with that quote; a backslash
    takes the next character with it. -/
def takeString (quote : Char) : List Char → List Char × List Char
  | [] => ([], [])
  | '\\' :: [] => (['\\'], [])
  | '\\' :: c :: rest =>
    let (body, after) := takeString quote rest
    ('\\' :: c :: body, after)
  | c :: rest =>
    if c = quote then ([c], rest)
    else
      let (body, after) := takeString quote rest
      (c :: body, after)

/-- Reads a path segment, word characters with an optional `$` in front. -/
def takeSegment? (text : List Char) : Option (List Char × List Char) :=
  let (sigil, text) := match text with
    | '$' :: rest => (['$'], rest)
    | _ => ([], text)
  let word := text.takeWhile isNameChar
  if word.isEmpty then none else some (sigil ++ word, text.dropWhile isNameChar)

/-- Reads a path segment after the `[` or `.` that introduces it, together with
    what has to follow: the closing bracket, or anything but a string. -/
def takeSubscript? (opener : Char) (text : List Char) : Option (List Char × List Char) := do
  let (segment, rest) ← takeSegment? text
  match rest with
  | c :: after =>
    if opener = '[' then if c = ']' then some (segment, after) else none
    else if isQuote c then none
    else some (segment, c :: after)
  | [] => if opener = '[' then none else some (segment, [])

/-- Whether a text begins like a name. -/
def startsName : List Char → Bool
  | c :: _ => isNameStart c
  | [] => false

/-! ## Rests are shorter -/

theorem length_takeString (quote : Char) (text : List Char) :
    (takeString quote text).2.length ≤ text.length := by
  fun_induction takeString quote text <;> simp_all <;> omega

theorem length_takeSegment? {text segment rest : List Char}
    (found : takeSegment? text = some (segment, rest)) : rest.length ≤ text.length := by
  unfold takeSegment? at found
  split at found
  rename_i sigil body parts
  have shorter : body.length ≤ text.length := by
    split at parts <;> (simp at parts; obtain ⟨_, rfl⟩ := parts; simp)
  dsimp only at found
  split at found
  · simp at found
  · simp only [Option.some.injEq, Prod.mk.injEq] at found
    obtain ⟨_, rfl⟩ := found
    exact Nat.le_trans (List.dropWhile_suffix isNameChar).length_le shorter

theorem length_takeSubscript? {opener : Char} {text segment rest : List Char}
    (found : takeSubscript? opener text = some (segment, rest)) :
    rest.length ≤ text.length := by
  unfold takeSubscript? at found
  simp only [Option.bind_eq_bind, Option.bind_eq_some_iff] at found
  obtain ⟨⟨inner, tail⟩, read, ending⟩ := found
  have shorter := length_takeSegment? read
  cases tail with
  | nil => simp at ending; simp [ending.2.2]
  | cons c after =>
    simp only [List.length_cons] at shorter
    simp only at ending
    split at ending
    · split at ending
      · simp only [Option.some.injEq, Prod.mk.injEq] at ending
        obtain ⟨_, rfl⟩ := ending
        omega
      · simp at ending
    · split at ending
      · simp at ending
      · simp only [Option.some.injEq, Prod.mk.injEq] at ending
        obtain ⟨_, rfl⟩ := ending
        simpa using shorter

/-! ## Quoting subscripts -/

/-- Quotes the subscripts of a text.  `inChain` tells whether the text follows
    a variable or one of its segments; `brackets` remembers, for each bracket
    that is open and was left as written, whether it followed one. -/
def quoteFrom (inChain : Bool) (brackets : List Bool) (text : List Char) : List Char :=
  match text with
  | [] => []
  | c :: rest =>
    if isQuote c then
      -- A string ends the chain, even one that is never closed.
      let string := takeString c rest
      c :: string.1 ++ quoteFrom false brackets string.2
    else if c = '$' && startsName rest then
      c :: rest.takeWhile isNameChar ++ quoteFrom true brackets (rest.dropWhile isNameChar)
    else if (c = '[' || c = '.') && inChain then
      match _found : takeSubscript? c rest with
      | some (segment, after) =>
        "[\"".toList ++ segment ++ "\"]".toList ++ quoteFrom true brackets after
      -- Left as written; the chain goes on behind the closing bracket.
      | none => c :: quoteFrom false (if c = '[' then true :: brackets else brackets) rest
    else if c = '[' then c :: quoteFrom false (false :: brackets) rest
    else if c = ']' then c :: quoteFrom (brackets.headD false) brackets.tail rest
    else if c = '-' && inChain && rest.head? == some '>' && startsName rest.tail then
      c :: '>' :: rest.tail.takeWhile isNameChar ++
        quoteFrom true brackets (rest.tail.dropWhile isNameChar)
    else c :: quoteFrom false brackets rest
termination_by text.length
decreasing_by
  all_goals simp only [List.length_cons]
  · exact Nat.lt_succ_of_le (length_takeString c rest)
  · exact Nat.lt_succ_of_le (List.dropWhile_suffix isNameChar).length_le
  · exact Nat.lt_succ_of_le (length_takeSubscript? _found)
  all_goals try omega
  · have tail : rest.tail.length ≤ rest.length := by simp
    exact Nat.lt_succ_of_le
      (Nat.le_trans (List.dropWhile_suffix isNameChar).length_le tail)

/-- Writes every dotted or bracketed segment of a variable as a quoted key. -/
def quoteSubscripts (text : List Char) : List Char := quoteFrom false [] text

end Stencil.Expr
