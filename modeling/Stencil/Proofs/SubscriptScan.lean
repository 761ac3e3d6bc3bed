import Stencil.Proofs.Octets
import Stencil.Proofs.SubscriptMoves

/-! # Subscripts quoted by their bytes

The rewriter of subscripts goes through the bytes of an expression and copies
what it leaves as written in slices.  Behind a backslash in a string it skips two
bytes, into a character or behind the end, and goes on there.

* `skipWord` / `segmentEnd?` / `subscriptEnd?` — where parts of a chain end;
* `scanSubscripts` — the expression behind an offset with its subscripts quoted;
* `Move.writes` — the scanner makes the moves of the rewriter;
* `scanSubscripts_eq` — no slice is a trap, and the subscripts are quoted.
-/

namespace Stencil.Expr

open Stencil.Template (isQuote)
open Stencil.Text

/-! ## Scanning -/

/-- The end of the word at an offset. -/
def skipWord (text : List Char) (place : Nat) : Nat :=
  match _seen : octet? text place with
  | none => place
  | some byte => if isNameChar byte then skipWord text (place + 1) else place
termination_by byteLength text - place
decreasing_by
  have := lt_of_octet? _seen
  omega

/-- The end of the path segment at an offset, if it is not empty. -/
def segmentEnd? (text : List Char) (place : Nat) : Option Nat :=
  let start := if octet? text place = some '$' then place + 1 else place
  let stop := skipWord text start
  if start < stop then some stop else none

/-- Where the text goes on behind a segment that ends at an offset, if it is closed
    there. -/
def subscriptEnd? (opener : Char) (text : List Char) (stop : Nat) : Option Nat :=
  if opener = '[' then if octet? text stop = some ']' then some (stop + 1) else none
  else if (octet? text stop).any isQuote then none else some stop

/-- The end of the segment behind an opener, and where the text goes on. -/
def scanSubscript? (opener : Char) (text : List Char) (place : Nat) : Option (Nat × Nat) := do
  let stop ← segmentEnd? text place
  let next ← subscriptEnd? opener text stop
  return (stop, next)

theorem le_skipWord (text : List Char) (place : Nat) : place ≤ skipWord text place := by
  fun_induction skipWord text place with
  | case1 | case3 => exact Nat.le_refl _
  | case2 place byte seen word ih => omega

theorem lt_of_scanSubscript? {opener : Char} {text : List Char} {place stop next : Nat}
    (found : scanSubscript? opener text place = some (stop, next)) : place < next := by
  simp only [scanSubscript?, Option.bind_eq_bind, Option.bind_eq_some_iff, Option.pure_def,
    Option.some.injEq, Prod.mk.injEq] at found
  obtain ⟨_, segment, _, closed, rfl, rfl⟩ := found
  unfold segmentEnd? at segment
  unfold subscriptEnd? at closed
  grind

/-- An expression with its subscripts quoted, from an offset on.  What stands
    between `copied` and that offset is still to be copied, `quote` is the quote
    that is open, if one is. -/
def scanSubscripts (text : List Char) (copied : Nat) (quote : Option Char) (inChain : Bool)
    (brackets : List Bool) (place : Nat) : Except Trap (List Char) :=
  if _inside : place < byteLength text then do
    let byte ← octet text place
    match quote with
    | some mark =>
      if byte = '\\' then scanSubscripts text copied quote inChain brackets (place + 2)
      else
        let quote := if byte = mark then none else quote
        scanSubscripts text copied quote inChain brackets (place + 1)
    | none =>
      if isQuote byte then scanSubscripts text copied (some byte) false brackets (place + 1)
      else if byte = '$' && (octet? text (place + 1)).any isNameStart then
        scanSubscripts text copied none true brackets (skipWord text (place + 1))
      else if (byte = '[' || byte = '.') && inChain then
        match _found : scanSubscript? byte text (place + 1) with
        | some (stop, next) => do
          let kept ← slice text copied place
          let segment ← slice text (place + 1) stop
          let later ← scanSubscripts text next none inChain brackets next
          return kept ++ "[\"".toList ++ segment ++ "\"]".toList ++ later
        | none =>
          let brackets := if byte = '[' then true :: brackets else brackets
          scanSubscripts text copied none false brackets (place + 1)
      else if byte = '[' then scanSubscripts text copied none false (false :: brackets) (place + 1)
      else if byte = ']' then
        scanSubscripts text copied none (brackets.headD false) brackets.tail (place + 1)
      else if byte = '-' && inChain && octet? text (place + 1) = some '>' &&
          (octet? text (place + 2)).any isNameStart then
        scanSubscripts text copied none inChain brackets (skipWord text (place + 2))
      else scanSubscripts text copied none false brackets (place + 1)
  else sliceFrom text copied
termination_by byteLength text - place
decreasing_by
  all_goals try omega
  · have := le_skipWord text (place + 1)
    omega
  · have := lt_of_scanSubscript? _found
    omega
  · have := le_skipWord text (place + 2)
    omega

/-! ## Where the parts of a chain end -/

section Parts

variable {text rest : List Char} {place : Nat} {opener c : Char}

theorem skipWord_eq (stands : StandsAt text place rest) :
    skipWord text place = place + byteLength (rest.takeWhile isNameChar) := by
  induction rest generalizing place with
  | nil =>
    rw [skipWord]
    split
    · rfl
    · rename_i seen
      cases stands.octet?_end.symm.trans seen
  | cons c rest ih =>
    obtain ⟨byte, seen, same⟩ := stands.first
    have word : isNameChar byte = isNameChar c := by
      rcases same with rfl | ⟨wideByte, wide⟩
      · rfl
      · rw [isNameChar_of_isWide wideByte, isNameChar_of_isWide wide]
    rw [skipWord]
    split
    · rename_i ended
      cases seen.symm.trans ended
    · rename_i other
      cases seen.symm.trans other
      by_cases inWord : isNameChar c
      · have narrow : ¬ IsWide c := fun wide => by simp [isNameChar_of_isWide wide] at inWord
        rw [word, if_pos inWord, ih (stands.tail_narrow narrow), List.takeWhile_cons_of_pos inWord,
          byteLength_cons, utf8Size_narrow narrow, Nat.add_assoc]
      · rw [word, if_neg inWord, List.takeWhile_cons_of_neg inWord]
        rfl

/-- Whether there is a word at an offset, and where it ends. -/
theorem wordEnd_eq (stands : StandsAt text place rest) :
    (if place < skipWord text place then some (skipWord text place) else none) =
      if (rest.takeWhile isNameChar).isEmpty then none
      else some (place + byteLength (rest.takeWhile isNameChar)) := by
  rw [skipWord_eq stands]
  cases rest.takeWhile isNameChar with
  | nil => simp
  | cons c word =>
    have := c.utf8Size_pos
    rw [if_pos (by simp; omega), if_neg (by simp)]

theorem segmentEnd?_eq (stands : StandsAt text place rest) :
    segmentEnd? text place =
      (takeSegment? rest).map fun (segment, _) => place + byteLength segment := by
  unfold segmentEnd?
  by_cases sigil : rest.head? = some '$'
  · obtain ⟨body, rfl⟩ := List.head?_eq_some_iff.1 sigil
    have size : '$'.utf8Size = 1 := rfl
    rw [if_pos ((stands.octet?_eq_iff (by decide)).2 sigil)]
    simp only [wordEnd_eq (stands.tail_narrow (by decide)), takeSegment?_sigil]
    split
    · rfl
    · simp [size, Nat.add_assoc]
  · rw [if_neg (mt (stands.octet?_eq_iff (by decide)).1 sigil)]
    simp only [wordEnd_eq stands, takeSegment?_word sigil]
    split <;> rfl

theorem subscriptEnd?_eq (opener : Char) (stands : StandsAt text place rest) :
    subscriptEnd? opener text place =
      if opener = '[' then if rest.head? = some ']' then some (place + 1) else none
      else if rest.head?.any isQuote then none else some place := by
  have bracket := stands.octet?_eq_iff (d := ']') (by decide)
  have quote := stands.any_octet? isQuote fun d wide => isQuote_of_isWide wide
  simp only [subscriptEnd?, bracket, quote]

/-- The scanner finds the segments that are read, and goes on behind what closes
    them. -/
theorem scanSubscript?_eq (opener : Char) (stands : StandsAt text place rest) :
    match takeSubscript? opener rest with
    | none => scanSubscript? opener text place = none
    | some (segment, after) => ∃ closing, rest = segment ++ (closing ++ after) ∧
        scanSubscript? opener text place =
          some (place + byteLength segment, place + byteLength segment + byteLength closing) := by
  have stop := segmentEnd?_eq stands
  cases taken : takeSegment? rest with
  | none =>
    rw [taken, Option.map_none] at stop
    simp [takeSubscript?, taken, scanSubscript?, stop]
  | some parts =>
    obtain ⟨segment, tail⟩ := parts
    obtain ⟨-, -, rfl⟩ := takeSegment?_eq_some_iff.1 taken
    rw [taken, Option.map_some] at stop
    have next := subscriptEnd?_eq opener stands.behind
    simp only [takeSubscript?, taken, scanSubscript?, stop, next, Option.bind_eq_bind,
      Option.bind_some]
    -- A bracket has to be closed; a dotted segment must not touch a string.
    by_cases bracketed : opener = '['
    · simp only [if_pos bracketed]
      cases tail with
      | nil => rfl
      | cons c after =>
        by_cases closes : c = ']'
        · subst closes
          exact ⟨[']'], rfl, rfl⟩
        · simp [closes]
    · simp only [if_neg bracketed]
      cases tail with
      | nil => exact ⟨[], rfl, rfl⟩
      | cons c after =>
        by_cases quote : isQuote c = true
        · simp [quote]
        · simp only [if_neg quote]
          exact ⟨[], rfl, by simp [quote]⟩

end Parts

/-! ## What the scanner writes -/

section Scanning

variable {text pending rest : List Char} {copied place : Nat} {quote : Option Char}
  {inChain : Bool} {brackets : List Bool} {byte c : Char}

theorem scanSubscripts_end (ended : byteLength text ≤ place) :
    scanSubscripts text copied quote inChain brackets place = sliceFrom text copied := by
  rw [scanSubscripts, dif_neg (Nat.not_lt.2 ended)]

theorem scanSubscripts_string {mark : Char} (seen : octet? text place = some byte) :
    scanSubscripts text copied (some mark) inChain brackets place =
      if byte = '\\' then scanSubscripts text copied (some mark) inChain brackets (place + 2)
      else scanSubscripts text copied (if byte = mark then none else some mark) inChain brackets
        (place + 1) := by
  rw [scanSubscripts, dif_pos (lt_of_octet? seen), octet_eq seen]
  rfl

/-- A string is passed up to the quote that closes it, and to the end without one. -/
theorem scanSubscripts_takeString {mark : Char} (quoted : isQuote mark = true)
    (stands : StandsAt text place rest) :
    scanSubscripts text copied (some mark) inChain brackets place =
      scanSubscripts text copied none inChain brackets
        (place + byteLength (takeString mark rest).1) := by
  have narrow : ¬ IsWide mark := fun wide => by simp [isQuote_of_isWide wide] at quoted
  have other : mark ≠ '\\' := by
    rintro rfl
    cases quoted
  have steps (place : Nat) (byte : Char) (seen : octet? text place = some byte)
      (plain : byte ≠ '\\' ∧ byte ≠ mark) :
      scanSubscripts text copied (some mark) inChain brackets place =
        scanSubscripts text copied (some mark) inChain brackets (place + 1) := by
    rw [scanSubscripts_string seen, if_neg plain.1, if_neg plain.2]
  have passed (byte : Char) (wide : IsWide byte) : byte ≠ '\\' ∧ byte ≠ mark :=
    ⟨ne_of_isWide wide (by decide), ne_of_isWide wide narrow⟩
  fun_induction takeString mark rest generalizing place with
  | case1 =>
    have ended : byteLength text ≤ place := Nat.le_of_eq stands.length.symm
    rw [byteLength_nil, Nat.add_zero, scanSubscripts_end ended, scanSubscripts_end ended]
  | case2 =>
    -- Behind a backslash at the end the scanner stands behind the end.
    have length : place + 1 = byteLength text := stands.length
    have size : byteLength ['\\'] = 1 := rfl
    rw [scanSubscripts_string (stands.octet?_narrow (by decide)), if_pos rfl, size,
      scanSubscripts_end (by omega), scanSubscripts_end (by omega)]
  | case3 c rest body after taken ih =>
    -- The second byte that is skipped can be the first one of several.
    have behind := stands.tail_narrow (by decide)
    have passes := behind.finish (scanSubscripts text copied (some mark) inChain brackets)
      fun place byte seen wide => steps place byte seen (passed byte wide)
    have size : '\\'.utf8Size = 1 := rfl
    rw [scanSubscripts_string (stands.octet?_narrow (by decide)), if_pos rfl, passes,
      ih behind.tail]
    simp only [taken, byteLength_cons, size, Nat.add_assoc]
  | case4 rest _ _ =>
    rw [scanSubscripts_string (stands.octet?_narrow narrow), if_neg other, if_pos rfl]
    simp [utf8Size_narrow narrow]
  | case5 c rest alone pair different body after taken ih =>
    have passes := stands.pass _ _ steps ⟨ne_backslash alone pair, different⟩ passed
    rw [passes, ih stands.tail]
    simp only [taken, byteLength_cons, Nat.add_assoc]

theorem scanSubscripts_markup (seen : octet? text place = some byte) :
    scanSubscripts text copied none inChain brackets place =
      if isQuote byte then scanSubscripts text copied (some byte) false brackets (place + 1)
      else if byte = '$' && (octet? text (place + 1)).any isNameStart then
        scanSubscripts text copied none true brackets (skipWord text (place + 1))
      else if (byte = '[' || byte = '.') && inChain then
        match scanSubscript? byte text (place + 1) with
        | some (stop, next) => do
          let kept ← slice text copied place
          let segment ← slice text (place + 1) stop
          let later ← scanSubscripts text next none inChain brackets next
          return kept ++ "[\"".toList ++ segment ++ "\"]".toList ++ later
        | none =>
          let brackets := if byte = '[' then true :: brackets else brackets
          scanSubscripts text copied none false brackets (place + 1)
      else if byte = '[' then scanSubscripts text copied none false (false :: brackets) (place + 1)
      else if byte = ']' then
        scanSubscripts text copied none (brackets.headD false) brackets.tail (place + 1)
      else if byte = '-' && inChain && octet? text (place + 1) = some '>' &&
          (octet? text (place + 2)).any isNameStart then
        scanSubscripts text copied none inChain brackets (skipWord text (place + 2))
      else scanSubscripts text copied none false brackets (place + 1) := by
  rw [scanSubscripts, dif_pos (lt_of_octet? seen), octet_eq seen]
  simp only [ok_bind]
  cases scanSubscript? byte text (place + 1) <;> rfl

theorem any_isNameStart (stands : StandsAt text place rest) :
    (octet? text place).any isNameStart = startsName rest := by
  rw [stands.any_octet? isNameStart fun d wide => isNameStart_of_isWide wide]
  cases rest <;> rfl

/-- An arrow and a name, asked for byte by byte. -/
theorem arrow_eq (stands : StandsAt text place rest) :
    (octet? text place = some '>' && (octet? text (place + 1)).any isNameStart) =
      (rest.head? == some '>' && startsName rest.tail) := by
  by_cases arrow : rest.head? = some '>'
  · obtain ⟨name, rfl⟩ := List.head?_eq_some_iff.1 arrow
    rw [(stands.octet?_eq_iff (by decide)).2 arrow, any_isNameStart (stands.tail_narrow (by decide))]
    simp
  · simp [arrow, mt (stands.octet?_eq_iff (by decide)).1 arrow]

theorem scanSubscripts_wide (seen : octet? text place = some byte) (wide : IsWide byte) :
    scanSubscripts text copied none inChain brackets place =
      scanSubscripts text copied none false brackets (place + 1) := by
  have other (d : Char) (narrow : ¬ IsWide d) : byte ≠ d := ne_of_isWide wide narrow
  rw [scanSubscripts_markup seen, if_neg (by simp [isQuote_of_isWide wide]),
    if_neg (by simp [other '$' (by decide)]),
    if_neg (by simp [other '[' (by decide), other '.' (by decide)]), if_neg (other '[' (by decide)),
    if_neg (other ']' (by decide)), if_neg (by simp [other '-' (by decide)])]

/-- An opener that no key follows ends the chain. -/
theorem scanSubscripts_opener (opens : c = '[' ∨ c = '.') (keyless : takeSubscript? c rest = none)
    (stands : StandsAt text place (c :: rest)) :
    scanSubscripts text copied none true brackets place =
      scanSubscripts text copied none false (if c = '[' then true :: brackets else brackets)
        (place + 1) := by
  have narrow : ¬ IsWide c := by rcases opens with rfl | rfl <;> decide
  have noQuote : ¬ isQuote c = true := by rcases opens with rfl | rfl <;> decide
  have noSigil : ¬ c = '$' := by rcases opens with rfl | rfl <;> decide
  have ends := scanSubscript?_eq c (stands.tail_narrow narrow)
  rw [keyless] at ends
  rw [scanSubscripts_markup (stands.octet?_narrow narrow), if_neg noQuote,
    if_neg (by simp [noSigil]), if_pos (by simpa using opens), ends]

/-- An inert character ends the chain, by its first byte if it has several. -/
theorem scanSubscripts_inert (inert : IsInert inChain c rest) (stands : StandsAt text place (c :: rest)) :
    scanSubscripts text copied none inChain brackets place =
      scanSubscripts text copied none false brackets (place + c.utf8Size) := by
  have first : scanSubscripts text copied none inChain brackets place =
      scanSubscripts text copied none false brackets (place + 1) := by
    by_cases wide : IsWide c
    · obtain ⟨byte, seen, rfl | ⟨wideByte, -⟩⟩ := stands.first
      · exact scanSubscripts_wide seen wide
      · exact scanSubscripts_wide seen wideByte
    by_cases dot : c = '.' ∧ inChain = true
    · obtain ⟨rfl, rfl⟩ := dot
      exact scanSubscripts_opener (.inr rfl) (inert.dot rfl rfl) stands
    · have behind := stands.tail_narrow wide
      have noName : ¬ (c = '$' && startsName rest) = true := by simpa using inert.sigil
      have noKey : ¬ ((c = '[' || c = '.') && inChain) = true := by simpa [inert.opening] using dot
      have noArrow : ¬ (c = '-' && inChain && rest.head? == some '>' && startsName rest.tail) =
          true := by
        simpa using inert.arrow
      rw [scanSubscripts_markup (stands.octet?_narrow wide), if_neg (by simp [inert.quote]),
        any_isNameStart behind, if_neg noName, if_neg noKey, if_neg inert.opening,
        if_neg inert.closing, Bool.and_assoc, arrow_eq behind, ← Bool.and_assoc, if_neg noArrow]
  rw [first, stands.finish (scanSubscripts text copied none false brackets)
    fun place byte seen wide => scanSubscripts_wide seen wide]

/-- Behind text that is still to be copied, the scanner writes the text and quotes
    the subscripts of the rest. -/
def Writes (text rest : List Char) (inChain : Bool) (brackets : List Bool) : Prop :=
  ∀ copied pending, StandsAt text copied (pending ++ rest) →
    scanSubscripts text copied none inChain brackets (copied + byteLength pending) =
      .ok (pending ++ quoteFrom inChain brackets rest)

variable {reading next : Reading} {written : List Char}

/-- A move that copies what it passes adds it to the text that is still to be copied. -/
theorem Move.writes_of_copied (move : Move reading written next)
    (whole : reading.rest = written ++ next.rest)
    (step : ∀ copied place, StandsAt text place reading.rest →
      scanSubscripts text copied none reading.inChain reading.brackets place =
        scanSubscripts text copied none next.inChain next.brackets (place + byteLength written))
    (later : Writes text next.rest next.inChain next.brackets) :
    Writes text reading.rest reading.inChain reading.brackets := by
  intro copied pending started
  have kept : quoteFrom reading.inChain reading.brackets reading.rest =
      written ++ quoteFrom next.inChain next.brackets next.rest := move.output_eq
  have grown : StandsAt text copied ((pending ++ written) ++ next.rest) := by
    rwa [List.append_assoc, ← whole]
  rw [step copied _ started.behind, Nat.add_assoc, ← byteLength_append, later copied _ grown, kept,
    List.append_assoc]

/-- All text up to a subscript is written, and the scanner begins anew behind it. -/
theorem writes_subscript {key after : List Char} (opens : c = '[' ∨ c = '.')
    (found : takeSubscript? c rest = some (key, after)) (later : Writes text after true brackets) :
    Writes text (c :: rest) true brackets := by
  have narrow : ¬ IsWide c := by rcases opens with rfl | rfl <;> decide
  have noQuote : ¬ isQuote c = true := by rcases opens with rfl | rfl <;> decide
  have noSigil : ¬ c = '$' := by rcases opens with rfl | rfl <;> decide
  intro copied pending started
  have stands := started.behind
  have behind := stands.tail_narrow narrow
  have ends := scanSubscript?_eq c behind
  rw [found] at ends
  obtain ⟨closing, rfl, scanned⟩ := ends
  have anew := later _ [] behind.behind.behind
  simp only [byteLength_nil, Nat.add_zero, List.nil_append] at anew
  rw [scanSubscripts_markup (stands.octet?_narrow narrow), if_neg noQuote,
    if_neg (by simp [noSigil]), if_pos (by simpa using opens), scanned,
    quoteFrom_subscript opens found]
  simp only [started.slice, behind.slice, anew, ok_bind, pure_eq_ok, List.append_assoc]

/-- The scanner makes the moves of the rewriter. -/
theorem Move.writes (move : Move reading written next)
    (later : Writes text next.rest next.inChain next.brackets) :
    Writes text reading.rest reading.inChain reading.brackets := by
  cases move with
  | @string inChain brackets c rest body after quoted taken =>
    have narrow : ¬ IsWide c := fun wide => by simp [isQuote_of_isWide wide] at quoted
    have split := takeString_split c rest
    rw [taken] at split
    refine writes_of_copied (.string quoted taken) (congrArg (c :: ·) split.symm) ?_ later
    intro copied place stands
    rw [scanSubscripts_markup (stands.octet?_narrow narrow), if_pos quoted,
      scanSubscripts_takeString quoted (stands.tail_narrow narrow), taken, byteLength_cons,
      utf8Size_narrow narrow, Nat.add_assoc]
  | @name inChain brackets name after identifier ends =>
    refine writes_of_copied (.name identifier ends) rfl ?_ later
    intro copied place stands
    have behind := stands.tail_narrow (by decide)
    have size : '$'.utf8Size = 1 := rfl
    rw [scanSubscripts_markup (stands.octet?_narrow (by decide)), if_neg (by decide),
      any_isNameStart behind, if_pos (by simp [identifier.startsName_append]), skipWord_eq behind,
      takeWhile_word identifier.2 ends, byteLength_cons, size, Nat.add_assoc]
  | @property brackets name after identifier ends =>
    refine writes_of_copied (.property identifier ends) rfl ?_ later
    intro copied place stands
    have behind := stands.tail_narrow (by decide)
    have dash : '-'.utf8Size = 1 := rfl
    have angle : '>'.utf8Size = 1 := rfl
    rw [scanSubscripts_markup (stands.octet?_narrow (by decide)), if_neg (by decide),
      if_neg (by simp), if_neg (by simp), if_neg (by decide), if_neg (by decide), Bool.and_assoc,
      arrow_eq behind, if_pos (by simp [identifier.startsName_append]),
      skipWord_eq (behind.tail_narrow (by decide)), takeWhile_word identifier.2 ends]
    simp only [byteLength_cons, dash, angle, Nat.add_assoc]
  | subscript opens found => exact writes_subscript opens found later
  | @opening inChain brackets rest left =>
    refine writes_of_copied (.opening left) rfl ?_ later
    intro copied place stands
    cases inChain with
    | true => exact scanSubscripts_opener (.inl rfl) (left rfl) stands
    | false =>
      rw [scanSubscripts_markup (stands.octet?_narrow (by decide)), if_neg (by decide),
        if_neg (by simp), if_neg (by simp), if_pos rfl]
      rfl
  | closing =>
    refine writes_of_copied .closing rfl ?_ later
    intro copied place stands
    rw [scanSubscripts_markup (stands.octet?_narrow (by decide)), if_neg (by decide),
      if_neg (by simp), if_neg (by simp), if_neg (by decide), if_pos rfl]
    rfl
  | inert inert =>
    refine writes_of_copied (.inert inert) rfl ?_ later
    intro copied place stands
    rw [scanSubscripts_inert inert stands, byteLength_cons, byteLength_nil, Nat.add_zero]

theorem writes_quoteFrom (text : List Char) (reading : Reading) :
    Writes text reading.rest reading.inChain reading.brackets := by
  induction reading using movewise with
  | ended inChain brackets =>
    intro copied pending started
    have ended : byteLength text ≤ copied + byteLength pending :=
      Nat.le_of_eq started.behind.length.symm
    rw [scanSubscripts_end ended, started.sliceFrom, quoteFrom]
  | moved reading written next move ih => exact move.writes ih

/-- Quoting the subscripts of an expression is free of traps. -/
theorem scanSubscripts_eq (text : List Char) :
    scanSubscripts text 0 none false [] 0 = .ok (quoteSubscripts text) :=
  writes_quoteFrom text ⟨false, [], text⟩ 0 [] (standsAt_zero text)

end Scanning

end Stencil.Expr
