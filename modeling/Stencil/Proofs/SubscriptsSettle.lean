import Mathlib.Logic.Relation
import Stencil.Proofs.SubscriptMoves

/-! # Settled subscripts

What the rewriter has written it leaves alone: a quoted key is read as a bracket with
a string in it, and what stands in front of a text that was left as written keeps
standing there.

* `Move.again` — a move on what has been written copies it;
* `Reading.Settled` — no key of a chain stands unquoted;
* `quoteSubscripts_settles` — rewriting settles a text, and settled text is kept.
-/

namespace Stencil.Expr

open Stencil.Template (isQuote)
open Stencil.Text (isNameChar)

variable {inChain : Bool} {brackets : List Bool} {c : Char} {rest word key after written : List Char}
  {reading next : Reading}

/-! ## How the output begins -/

theorem Move.head?_written (move : Move reading written next) :
    ∃ first others, written = first :: others ∧ (reading.rest.head? = some first ∨
      reading.inChain = true ∧ reading.rest.head? = some '.' ∧ first = '[') := by
  cases move with
  | subscript opens found =>
    rcases opens with rfl | rfl
    · exact ⟨_, _, rfl, .inl rfl⟩
    · exact ⟨_, _, rfl, .inr ⟨rfl, rfl, rfl⟩⟩
  | _ => exact ⟨_, _, rfl, .inl rfl⟩

/-- Only a dotted key changes how a text begins. -/
theorem head?_output (reading : Reading) :
    reading.output.head? = reading.rest.head? ∨
      reading.inChain = true ∧ reading.rest.head? = some '.' ∧ reading.output.head? = some '[' := by
  obtain ⟨inChain, brackets, text⟩ := reading
  cases text with
  | nil => exact .inl (by rw [output_nil])
  | cons c rest =>
    obtain ⟨written, next, move⟩ := exists_move inChain brackets c rest
    obtain ⟨first, others, rfl, head⟩ := move.head?_written
    rw [move.output_eq]
    rcases head with same | ⟨chained, dot, rfl⟩
    · exact .inl same.symm
    · exact .inr ⟨chained, dot, rfl⟩

theorem head?_output_of_not_inChain (ended : reading.inChain = false) :
    reading.output.head? = reading.rest.head? := by
  rcases head?_output reading with same | ⟨chained, -⟩
  · exact same
  · cases ended.symm.trans chained

theorem EndsWord.output (ends : EndsWord rest) (inChain : Bool) (brackets : List Bool) :
    EndsWord (Reading.mk inChain brackets rest).output := by
  intro c first
  rcases head?_output ⟨inChain, brackets, rest⟩ with same | ⟨-, -, opening⟩
  · exact ends c (same ▸ first)
  · cases opening.symm.trans first
    rfl

/-! ## Keys outside chains -/

theorem isInert_of_isNameChar (char : isNameChar c = true) : IsInert inChain c rest := by
  have other (d : Char) (symbol : isNameChar d = false) : c ≠ d := by
    rintro rfl
    cases symbol.symm.trans char
  exact ⟨by simp [isQuote, other '"' rfl, other '\'' rfl], fun same => absurd same (other _ rfl),
    other _ rfl, other _ rfl, fun same => absurd same (other _ rfl),
    fun same => absurd same (other _ rfl)⟩

theorem isInert_sigil (unnamed : startsName rest = false) : IsInert inChain '$' rest :=
  ⟨rfl, fun _ => unnamed, by decide, by decide, by simp, by simp⟩

/-- Outside a chain a word is copied. -/
theorem output_word (chars : ∀ c ∈ word, isNameChar c = true) (rest : List Char) :
    (Reading.mk false brackets (word ++ rest)).output =
      word ++ (Reading.mk false brackets rest).output := by
  induction word with
  | nil => rfl
  | cons c word ih =>
    have inert : IsInert false c (word ++ rest) := isInert_of_isNameChar (chars c (.head _))
    rw [List.cons_append, (Move.inert inert).output_eq, ih fun d inside => chars d (.tail _ inside)]
    rfl

/-- Outside a chain a key is copied, too, though with a `$` in front it can begin one. -/
theorem output_key (isKey : IsKey key) (ends : EndsWord after) (brackets : List Bool) :
    ∃ chained, (Reading.mk false brackets (key ++ after)).output =
      key ++ (Reading.mk chained brackets after).output := by
  obtain ⟨word, filled, chars, rfl | rfl⟩ := isKey
  · exact ⟨false, output_word chars after⟩
  · cases named : startsName (word ++ after) with
    | true =>
      have identifier : IsIdentifier word := by
        have taken := IsIdentifier.takeWhile named
        rwa [takeWhile_word chars ends] at taken
      exact ⟨true, (Move.name identifier ends).output_eq⟩
    | false =>
      refine ⟨false, ?_⟩
      rw [List.cons_append, (Move.inert (isInert_sigil named)).output_eq, output_word chars after]
      rfl

/-- Where no key is read, none appears by rewriting what is there. -/
theorem takeSegment?_output (absent : takeSegment? rest = none) :
    takeSegment? (Reading.mk false brackets rest).output = none := by
  obtain ⟨ends, behind⟩ := takeSegment?_eq_none_iff.1 absent
  refine takeSegment?_eq_none_iff.2 ⟨ends.output false brackets, fun sigil => ?_⟩
  rw [head?_output_of_not_inChain rfl] at sigil
  obtain ⟨body, rfl⟩ := List.head?_eq_some_iff.1 sigil
  have ends : EndsWord body := behind rfl
  rw [(Move.inert (isInert_sigil ends.not_startsName)).output_eq]
  exact ends.output false brackets

/-- What stands in front of a key that is left keeps it from being read again. -/
theorem takeSubscript?_output {opener : Char} (absent : takeSubscript? opener rest = none) :
    takeSubscript? opener (Reading.mk false brackets rest).output = none := by
  rw [Option.eq_none_iff_forall_not_mem] at absent ⊢
  rintro ⟨key, behind⟩ found
  obtain ⟨tail, segment, closed⟩ := takeSubscript?_eq_some_iff.1 found
  cases taken : takeSegment? rest with
  | none => cases (takeSegment?_output taken).symm.trans segment
  | some parts =>
    obtain ⟨read, after⟩ := parts
    obtain ⟨isKey, ends, rfl⟩ := takeSegment?_eq_some_iff.1 taken
    obtain ⟨chained, same⟩ := output_key isKey ends brackets
    have again : takeSegment? (read ++ (Reading.mk chained brackets after).output) =
        some (read, (Reading.mk chained brackets after).output) :=
      takeSegment?_eq_some_iff.2 ⟨isKey, ends.output chained brackets, rfl⟩
    rw [same, again] at segment
    cases segment
    have front := head?_output ⟨chained, brackets, after⟩
    by_cases bracketed : opener = '['
    · rw [if_pos bracketed] at closed
      rw [closed] at front
      rcases front with first | ⟨-, -, opening⟩
      · obtain ⟨tail, rfl⟩ := List.head?_eq_some_iff.1 first.symm
        exact absent (key, tail) (takeSubscript?_eq_some_iff.2 ⟨_, taken, by rw [if_pos bracketed]⟩)
      · cases opening
    · rw [if_neg bracketed] at closed
      obtain ⟨rfl, noQuote⟩ := closed
      refine absent (key, after) (takeSubscript?_eq_some_iff.2 ⟨_, taken, ?_⟩)
      rw [if_neg bracketed]
      refine ⟨rfl, fun c first => ?_⟩
      rcases front with same | ⟨-, dot, -⟩
      · exact noQuote c (same.trans first)
      · cases dot.symm.trans first
        rfl

/-! ## Rewriting again -/

/-- What has been written, in the place of what was to be read. -/
def Reading.again (reading : Reading) : Reading := { reading with rest := reading.output }

/-- A quoted key is read as a bracket with a string in it. -/
theorem output_quotedKey (isKey : IsKey key) (rest : List Char) :
    (Reading.mk true brackets (quotedKey key ++ rest)).output =
      quotedKey key ++ (Reading.mk true brackets rest).output := by
  have taken : takeString '"' (key ++ '"' :: (']' :: rest)) = (key ++ ['"'], ']' :: rest) :=
    takeString_string rfl (isKey.not_mem rfl (by decide)) (isKey.not_mem rfl (by decide)) _
  have left : true = true → takeSubscript? '[' ('"' :: (key ++ '"' :: (']' :: rest))) = none :=
    fun _ => rfl
  have shape : quotedKey key ++ rest = '[' :: '"' :: (key ++ '"' :: (']' :: rest)) := by
    simp [quotedKey]
  rw [shape, (Move.opening left).output_eq, (Move.string rfl taken).output_eq,
    Move.closing.output_eq]
  simp [quotedKey]

theorem IsInert.again (inert : IsInert inChain c rest) :
    IsInert inChain c (Reading.mk false brackets rest).output where
  quote := inert.quote
  sigil same := (startsName_congr (head?_output_of_not_inChain rfl)).trans (inert.sigil same)
  opening := inert.opening
  closing := inert.closing
  dot same chained := takeSubscript?_output (inert.dot same chained)
  arrow same chained head := by
    rw [head?_output_of_not_inChain rfl] at head
    have unnamed := inert.arrow same chained head
    obtain ⟨body, rfl⟩ := List.head?_eq_some_iff.1 head
    have angle : IsInert false '>' body := ⟨rfl, by simp, by decide, by decide, by simp, by simp⟩
    rw [(Move.inert angle).output_eq]
    exact (startsName_congr (head?_output_of_not_inChain rfl)).trans unnamed

/-- A move on what has been written copies it and goes on there. -/
theorem Move.again (move : Move reading written next) :
    reading.again.output = written ++ next.again.output := by
  rw [Reading.again, move.output_eq]
  cases move with
  | @string inChain brackets c rest body after quoted taken =>
    have again : takeString c (body ++ (Reading.mk false brackets after).output) =
        (body, (Reading.mk false brackets after).output) := by
      cases after with
      | nil =>
        -- Nothing follows a string that is never closed.
        have whole := takeString_split c rest
        rw [taken, List.append_nil] at whole
        obtain rfl : body = rest := whole
        rw [output_nil, List.append_nil, taken]
      | cons d after => exact takeString_closed _ taken (List.cons_ne_nil d after)
    exact (Move.string quoted again).output_eq
  | name identifier ends => exact (Move.name identifier (ends.output true _)).output_eq
  | property identifier ends => exact (Move.property identifier (ends.output true _)).output_eq
  | subscript opens found =>
    obtain ⟨tail, segment, -⟩ := takeSubscript?_eq_some_iff.1 found
    exact output_quotedKey (takeSegment?_eq_some_iff.1 segment).1 _
  | opening left => exact (Move.opening fun chained => takeSubscript?_output (left chained)).output_eq
  | closing => exact Move.closing.output_eq
  | inert inert => exact (Move.inert inert.again).output_eq

theorem output_again (reading : Reading) : reading.again.output = reading.output := by
  induction reading using movewise with
  | ended inChain brackets => simp [Reading.again]
  | moved reading written next move ih => rw [move.again, ih, move.output_eq]

/-! ## Settled text -/

/-- One reading directly behind another. -/
def Reading.Leads (reading next : Reading) : Prop := ∃ written, Move reading written next

/-- A key of a chain that is not quoted is next. -/
def Reading.IsUnquoted (reading : Reading) : Prop :=
  reading.inChain = true ∧ ∃ c rest, (c = '[' ∨ c = '.') ∧ reading.rest = c :: rest ∧
    takeSubscript? c rest ≠ none

/-- No key of a chain stands unquoted from here on. -/
def Reading.Settled (reading : Reading) : Prop :=
  ∀ later, Relation.ReflTransGen Reading.Leads reading later → ¬ later.IsUnquoted

/-- A move that quotes no key copies what it reads. -/
theorem Move.rest_eq (move : Move reading written next) (quoted : ¬ reading.IsUnquoted) :
    reading.rest = written ++ next.rest := by
  cases move with
  | @string inChain brackets c rest body after isQuote taken =>
    have whole := takeString_split c rest
    rw [taken] at whole
    exact congrArg (c :: ·) whole.symm
  | subscript opens found =>
    exact absurd ⟨rfl, _, _, opens, rfl, by simp [found]⟩ quoted
  | _ => rfl

theorem output_of_settled (settled : reading.Settled) : reading.output = reading.rest := by
  induction reading using movewise with
  | ended inChain brackets => exact output_nil
  | moved reading written next move ih =>
    have later : next.Settled := fun later leads => settled later (.head ⟨written, move⟩ leads)
    rw [move.output_eq, ih later, move.rest_eq (settled reading .refl)]

/-- A key that stands unquoted is quoted, whatever the rewriter does. -/
theorem Move.lengthens (move : Move reading written next) (unquoted : reading.IsUnquoted) :
    reading.rest.length < written.length + next.rest.length := by
  obtain ⟨chained, opener, others, opens, same, found⟩ := unquoted
  cases move with
  | @subscript brackets c rest key after opens found =>
    obtain ⟨tail, segment, closed⟩ := takeSubscript?_eq_some_iff.1 found
    obtain ⟨-, -, rfl⟩ := takeSegment?_eq_some_iff.1 segment
    have longest : tail.length ≤ after.length + 1 := by
      split at closed <;> simp [closed]
    simp only [quotedKey, List.length_cons, List.length_append, List.length_nil]
    omega
  | string quoted =>
    cases same
    rcases opens with rfl | rfl <;> cases quoted
  | opening left =>
    cases same
    exact absurd (left chained) found
  | inert inert =>
    cases same
    rcases opens with rfl | rfl
    · exact absurd rfl inert.opening
    · exact absurd (inert.dot rfl chained) found
  | name | property | closing =>
    cases same
    rcases opens with same | same <;> cases same

theorem Move.length_le (move : Move reading written next) :
    reading.rest.length ≤ written.length + next.rest.length := by
  by_cases unquoted : reading.IsUnquoted
  · exact Nat.le_of_lt (move.lengthens unquoted)
  · rw [move.rest_eq unquoted, List.length_append]

theorem length_le_output (reading : Reading) : reading.rest.length ≤ reading.output.length := by
  induction reading using movewise with
  | ended inChain brackets => exact Nat.zero_le _
  | moved reading written next move ih =>
    rw [move.output_eq, List.length_append]
    exact move.length_le.trans (Nat.add_le_add_left ih _)

/-- A key that is quoted makes the output longer than the text. -/
theorem settled_of_length (same : reading.output.length = reading.rest.length) :
    reading.Settled := by
  intro later leads
  induction leads using Relation.ReflTransGen.head_induction_on with
  | refl =>
    intro unquoted
    obtain ⟨inChain, brackets, text⟩ := later
    obtain ⟨-, c, rest, -, rfl, -⟩ := id unquoted
    obtain ⟨written, next, move⟩ := exists_move inChain brackets c rest
    have longer := move.lengthens unquoted
    have bound := length_le_output next
    rw [move.output_eq, List.length_append] at same
    omega
  | @head reading next step leads ih =>
    obtain ⟨written, move⟩ := step
    have shorter := move.length_le
    have bound := length_le_output next
    rw [move.output_eq, List.length_append] at same
    exact ih (by omega)

theorem output_eq_rest_iff (reading : Reading) : reading.output = reading.rest ↔ reading.Settled :=
  ⟨fun same => settled_of_length (congrArg List.length same), output_of_settled⟩

/-- Rewriting a text again leaves it alone; so does rewriting exactly the texts in
    which every key of a chain is quoted. -/
theorem quoteSubscripts_settles (text : List Char) :
    quoteSubscripts (quoteSubscripts text) = quoteSubscripts text ∧
      (quoteSubscripts text = text ↔ Reading.Settled ⟨false, [], text⟩) :=
  ⟨output_again ⟨false, [], text⟩, output_eq_rest_iff ⟨false, [], text⟩⟩

end Stencil.Expr
