import Stencil.Template.Token
import Stencil.Text.WordCharacter

/-! # Offsets in the bytes of a text

A scanner over the bytes of a text stands at offsets, also within characters and
behind the end.  It may ask for a byte that is not there, but it must not take
one; and what it cuts out has to begin and to end between characters.  Every
other step is a trap, and a program that runs into none is defined throughout.

* `Trap` — what stops a program;
* `cutAt` / `slice` — the text at offsets;
* `octets` — the bytes of a text, as the characters of the same numbers;
* `StandsAt` — what stands behind an offset;
* `StandsAt.pass` — a scanner that passes a character byte by byte.
-/

namespace Stencil.Text

open Stencil.Template (isQuote)

/-- What stops a program. -/
inductive Trap where
  /-- A slice that stops before it starts. -/
  | reversed
  /-- An offset or an index behind the end. -/
  | outside
  /-- A cut within a character. -/
  | within
  /-- A difference below zero. -/
  | negative
  deriving DecidableEq, Repr

@[simp] theorem ok_bind {α β : Type} (found : α) (next : α → Except Trap β) :
    (Except.ok found >>= next) = next found := rfl

@[simp] theorem pure_eq_ok {α : Type} (found : α) : (pure found : Except Trap α) = .ok found := rfl

theorem exists_of_bind_eq_ok {α β : Type} {first : Except Trap α} {next : α → Except Trap β}
    {result : β} (done : (first >>= next) = .ok result) :
    ∃ found, first = .ok found ∧ next found = .ok result := by
  cases first with
  | error trap => cases done
  | ok found => exact ⟨found, rfl, done⟩

/-! ## Steps that can trap -/

/-- Cuts a text in two at an offset. -/
def cutAt (offset : Nat) : List Char → Except Trap (List Char × List Char)
  | [] => if offset = 0 then .ok ([], []) else .error .outside
  | c :: rest =>
    if offset = 0 then .ok ([], c :: rest)
    else if offset < c.utf8Size then .error .within
    else do
      let (before, after) ← cutAt (offset - c.utf8Size) rest
      return (c :: before, after)

/-- The text between two offsets. -/
def slice (text : List Char) (start stop : Nat) : Except Trap (List Char) :=
  if stop < start then .error .reversed
  else do
    let (front, _) ← cutAt stop text
    let (_, middle) ← cutAt start front
    return middle

/-- The text behind an offset. -/
def sliceFrom (text : List Char) (start : Nat) : Except Trap (List Char) :=
  slice text start (byteLength text)

/-- The item with an index. -/
def item {α : Type} (items : List α) (index : Nat) : Except Trap α :=
  match items[index]? with
  | some found => .ok found
  | none => .error .outside

/-- The difference of two numbers. -/
def subtract (left right : Nat) : Except Trap Nat :=
  if right ≤ left then .ok (left - right) else .error .negative

/-- The offset of the first occurrence of a mark. -/
def find? (mark text : List Char) : Option Nat :=
  (splitFirst? mark text).map fun (before, _) => byteLength before

section Cuts

variable {text before middle after : List Char} {start stop : Nat}

theorem cutAt_append (before after : List Char) :
    cutAt (byteLength before) (before ++ after) = .ok (before, after) := by
  induction before with
  | nil => cases after <;> rfl
  | cons c before ih =>
    have size := c.utf8Size_pos
    have rest : byteLength (c :: before) - c.utf8Size = byteLength before := by simp
    rw [List.cons_append, cutAt, if_neg (by simp; omega), if_neg (by simp), rest, ih]
    rfl

theorem cutAt_eq_ok {offset : Nat} (cut : cutAt offset text = .ok (before, after)) :
    before ++ after = text ∧ byteLength before = offset := by
  fun_induction cutAt offset text generalizing before with
  | case1 =>
    cases cut
    exact ⟨rfl, rfl⟩
  | case2 | case4 => cases cut
  | case3 c rest =>
    cases cut
    exact ⟨rfl, rfl⟩
  | case5 offset c rest _ inside ih =>
    obtain ⟨⟨front, back⟩, deeper, same⟩ := exists_of_bind_eq_ok cut
    cases same
    obtain ⟨rfl, length⟩ := ih deeper
    refine ⟨rfl, ?_⟩
    rw [byteLength_cons]
    omega

theorem slice_append (before middle after : List Char) :
    slice (before ++ (middle ++ after)) (byteLength before)
      (byteLength before + byteLength middle) = .ok middle := by
  rw [slice, if_neg (by omega), ← byteLength_append, ← List.append_assoc, cutAt_append]
  simp only [ok_bind, cutAt_append, pure_eq_ok]

/-- A slice is defined exactly between two offsets that stand, in this order,
    between characters of the text. -/
theorem slice_eq_ok_iff : slice text start stop = .ok middle ↔
    ∃ before after, text = before ++ (middle ++ after) ∧ byteLength before = start ∧
      byteLength before + byteLength middle = stop := by
  constructor
  · intro sliced
    unfold slice at sliced
    split at sliced
    · cases sliced
    · obtain ⟨⟨front, after⟩, outer, sliced⟩ := exists_of_bind_eq_ok sliced
      obtain ⟨⟨before, rest⟩, inner, same⟩ := exists_of_bind_eq_ok sliced
      cases same
      obtain ⟨rfl, reached⟩ := cutAt_eq_ok outer
      obtain ⟨rfl, begun⟩ := cutAt_eq_ok inner
      exact ⟨before, after, by simp, begun, by rw [← reached, byteLength_append]⟩
  · rintro ⟨before, after, rfl, rfl, rfl⟩
    exact slice_append before middle after

theorem item_eq_ok_iff {α : Type} {items : List α} {index : Nat} {found : α} :
    item items index = .ok found ↔ items[index]? = some found := by
  unfold item
  cases items[index]? <;> simp

theorem item_eq {α : Type} {items : List α} {index : Nat} {found : α}
    (listed : items[index]? = some found) : item items index = .ok found :=
  item_eq_ok_iff.2 listed

theorem subtract_eq_ok_iff {left right difference : Nat} :
    subtract left right = .ok difference ↔ difference + right = left := by
  unfold subtract
  split <;> simp <;> omega

theorem subtract_eq {left right : Nat} (enough : right ≤ left) :
    subtract left right = .ok (left - right) :=
  subtract_eq_ok_iff.2 (Nat.sub_add_cancel enough)

end Cuts

/-! ## Bytes -/

/-- The bytes of a text, as the characters of the same numbers. -/
def octets (text : List Char) : List Char := (bytes text).map Char.ofUInt8

/-- The byte at an offset, if there is one. -/
def octet? (text : List Char) (offset : Nat) : Option Char := (octets text)[offset]?

/-- The byte at an offset. -/
def octet (text : List Char) (offset : Nat) : Except Trap Char := item (octets text) offset

/-- The bytes behind an offset. -/
def octetsFrom (text : List Char) (offset : Nat) : Except Trap (List Char) :=
  if offset ≤ byteLength text then .ok ((octets text).drop offset) else .error .outside

/-- Whether a character takes more than one byte.  Its bytes are no characters of
    one byte, either. -/
def IsWide (c : Char) : Prop := 128 ≤ c.toNat

instance (c : Char) : Decidable (IsWide c) := inferInstanceAs (Decidable (128 ≤ c.toNat))

section Bytes

variable {text rest : List Char} {c d : Char} {offset : Nat}

@[simp] theorem octets_nil : octets [] = [] := rfl

theorem octets_append (left right : List Char) : octets (left ++ right) = octets left ++ octets right := by
  rw [octets, bytes_append, List.map_append]
  rfl

theorem length_octets (text : List Char) : (octets text).length = byteLength text := by
  rw [octets, List.length_map, length_bytes]

theorem utf8Size_narrow (narrow : ¬ IsWide c) : c.utf8Size = 1 := by
  rw [Char.utf8Size_eq_one_iff, UInt32.le_iff_toNat_le]
  simp only [IsWide, Char.toNat] at narrow
  exact Nat.le_of_lt_succ (Nat.lt_of_not_le narrow)

theorem toNat_ofUInt8 (byte : UInt8) : (Char.ofUInt8 byte).toNat = byte.toNat := rfl

theorem octets_narrow (narrow : ¬ IsWide c) : octets [c] = [c] := by
  have same : Char.ofUInt8 c.toUInt8 = c := by
    apply Char.ext
    apply UInt32.toNat_inj.1
    have low : c.val.toNat < 256 := Nat.lt_trans (Nat.lt_of_not_le narrow) (by decide)
    calc (Char.ofUInt8 c.toUInt8).toNat
      _ = c.val.toUInt8.toNat := toNat_ofUInt8 _
      _ = c.val.toNat % 256 := UInt32.toNat_toUInt8 c.val
      _ = c.val.toNat := Nat.mod_eq_of_lt low
  simp [octets, bytes, String.utf8EncodeChar_eq_singleton (utf8Size_narrow narrow), same]

theorem isWide_of_mem_octets (wide : IsWide c) (listed : d ∈ octets [c]) : IsWide d := by
  have large : ¬ c.val.toNat ≤ 127 := by
    simp only [IsWide, Char.toNat] at wide
    omega
  have high (n : Nat) (above : 128 ≤ n % 256) : IsWide (Char.ofUInt8 (UInt8.ofNat n)) := by
    rwa [IsWide, toNat_ofUInt8]
  -- A byte that leads and a byte that continues have their highest bit set.
  simp only [octets, bytes, List.flatMap_cons, List.flatMap_nil, List.append_nil,
    String.utf8EncodeChar, if_neg large, List.mem_map] at listed
  obtain ⟨byte, listed, rfl⟩ := listed
  split at listed
  · simp only [List.mem_cons, List.not_mem_nil, or_false] at listed
    rcases listed with rfl | rfl <;> (apply high; omega)
  · split at listed <;> simp only [List.mem_cons, List.not_mem_nil, or_false] at listed
    · rcases listed with rfl | rfl | rfl <;> (apply high; omega)
    · rcases listed with rfl | rfl | rfl | rfl <;> (apply high; omega)

theorem ne_of_isWide (wide : IsWide c) (narrow : ¬ IsWide d) : c ≠ d := by
  rintro rfl
  exact narrow wide

theorem isQuote_of_isWide (wide : IsWide c) : isQuote c = false := by
  simp only [isQuote, Bool.or_eq_false_iff, beq_eq_false_iff_ne]
  exact ⟨ne_of_isWide wide (by decide), ne_of_isWide wide (by decide)⟩

theorem isNameChar_of_isWide (wide : IsWide c) : isNameChar c = false := by
  rw [← Bool.not_eq_true]
  intro char
  exact Nat.not_lt.2 wide (toNat_lt_of_isNameChar char)

theorem isNameStart_of_isWide (wide : IsWide c) : isNameStart c = false := by
  rw [← Bool.not_eq_true]
  intro start
  have word := isNameChar_of_isNameStart start
  rw [isNameChar_of_isWide wide] at word
  cases word

theorem octets_cons (c : Char) (rest : List Char) : octets (c :: rest) = octets [c] ++ octets rest :=
  octets_append [c] rest

/-- A mark of narrow characters stands at the front of a text where it stands at the
    front of its bytes. -/
theorem isPrefixOf_octets {mark : List Char} (narrow : ∀ d ∈ mark, ¬ IsWide d) (text : List Char) :
    mark.isPrefixOf (octets text) = mark.isPrefixOf text := by
  induction mark generalizing text with
  | nil => rfl
  | cons letter mark ih =>
    obtain ⟨narrowLetter, later⟩ := List.forall_mem_cons.1 narrow
    cases text with
    | nil => rfl
    | cons c rest =>
      by_cases wide : IsWide c
      · have filled : octets [c] ≠ [] := by
          rw [← List.length_pos_iff, length_octets]
          simpa using c.utf8Size_pos
        obtain ⟨byte, more, split⟩ := List.exists_cons_of_ne_nil filled
        have wideByte : IsWide byte := isWide_of_mem_octets wide (by simp [split])
        rw [octets_cons, split, List.cons_append, List.isPrefixOf, List.isPrefixOf,
          beq_false_of_ne (ne_of_isWide wideByte narrowLetter).symm,
          beq_false_of_ne (ne_of_isWide wide narrowLetter).symm]
        rfl
      · rw [octets_cons, octets_narrow wide, List.cons_append, List.isPrefixOf, List.isPrefixOf,
          List.nil_append, ih later]

theorem lt_of_octet? (seen : octet? text offset = some d) : offset < byteLength text := by
  rw [← length_octets]
  exact (List.getElem?_eq_some_iff.1 seen).1

theorem octet_eq (seen : octet? text offset = some d) : octet text offset = .ok d := item_eq seen

end Bytes

/-! ## What stands at an offset -/

/-- Whether a text stands at an offset of another one, up to its end. -/
def StandsAt (text : List Char) (offset : Nat) (rest : List Char) : Prop :=
  ∃ before, text = before ++ rest ∧ byteLength before = offset

section Standing

variable {text rest front : List Char} {c d : Char} {offset : Nat}

theorem standsAt_zero (text : List Char) : StandsAt text 0 text := ⟨[], rfl, rfl⟩

theorem StandsAt.behind (stands : StandsAt text offset (front ++ rest)) :
    StandsAt text (offset + byteLength front) rest := by
  obtain ⟨before, rfl, rfl⟩ := stands
  exact ⟨before ++ front, by simp, by simp⟩

theorem StandsAt.tail (stands : StandsAt text offset (c :: rest)) :
    StandsAt text (offset + c.utf8Size) rest := by
  have whole : StandsAt text offset ([c] ++ rest) := stands
  simpa using whole.behind

theorem StandsAt.length (stands : StandsAt text offset rest) :
    offset + byteLength rest = byteLength text := by
  obtain ⟨before, rfl, rfl⟩ := stands
  simp

theorem StandsAt.slice (stands : StandsAt text offset (front ++ rest)) :
    slice text offset (offset + byteLength front) = .ok front := by
  obtain ⟨before, rfl, rfl⟩ := stands
  exact slice_append before front rest

theorem StandsAt.sliceFrom (stands : StandsAt text offset rest) :
    sliceFrom text offset = .ok rest := by
  have whole : StandsAt text offset (rest ++ []) := by rwa [List.append_nil]
  rw [Text.sliceFrom, ← stands.length, whole.slice]

theorem StandsAt.octet?_add (stands : StandsAt text offset rest) (more : Nat) :
    octet? text (offset + more) = octet? rest more := by
  obtain ⟨before, rfl, rfl⟩ := stands
  rw [octet?, octets_append, List.getElem?_append_right (by rw [length_octets]; omega),
    length_octets, Nat.add_sub_cancel_left]
  rfl

theorem StandsAt.octetsFrom (stands : StandsAt text offset rest) :
    octetsFrom text offset = .ok (octets rest) := by
  obtain ⟨before, rfl, rfl⟩ := stands
  rw [Text.octetsFrom, if_pos (by simp), octets_append, ← length_octets, List.drop_left]

theorem StandsAt.octet?_end (stands : StandsAt text offset []) : octet? text offset = none :=
  stands.octet?_add 0

theorem StandsAt.octet?_narrow (stands : StandsAt text offset (c :: rest)) (narrow : ¬ IsWide c) :
    octet? text offset = some c := by
  rw [← Nat.add_zero offset, stands.octet?_add, octet?, octets_cons, octets_narrow narrow]
  rfl

theorem StandsAt.tail_narrow (stands : StandsAt text offset (c :: rest)) (narrow : ¬ IsWide c) :
    StandsAt text (offset + 1) rest := by
  have behind := stands.tail
  rwa [utf8Size_narrow narrow] at behind

/-- Within a wide character there are wide bytes only. -/
theorem StandsAt.octet?_wide (stands : StandsAt text offset (c :: rest)) (wide : IsWide c)
    (more : Nat) (inside : more < c.utf8Size) :
    ∃ d, octet? text (offset + more) = some d ∧ IsWide d := by
  have length : (octets [c]).length = c.utf8Size := by simp [length_octets]
  refine ⟨(octets [c])[more], ?_, isWide_of_mem_octets wide (List.getElem_mem _)⟩
  rw [stands.octet?_add, octet?, octets_cons, List.getElem?_append_left (by omega),
    List.getElem?_eq_getElem]

/-- The first byte of a character is the character or as wide as it. -/
theorem StandsAt.first (stands : StandsAt text offset (c :: rest)) :
    ∃ byte, octet? text offset = some byte ∧ (byte = c ∨ IsWide byte ∧ IsWide c) := by
  by_cases wide : IsWide c
  · obtain ⟨byte, seen, wideByte⟩ := stands.octet?_wide wide 0 c.utf8Size_pos
    exact ⟨byte, seen, .inr ⟨wideByte, wide⟩⟩
  · exact ⟨c, stands.octet?_narrow wide, .inl rfl⟩

/-- The last byte of a character is the character or as wide as it. -/
theorem StandsAt.last (stands : StandsAt text offset (c :: rest)) :
    ∃ byte, octet? text (offset + (c.utf8Size - 1)) = some byte ∧
      (byte = c ∨ IsWide byte ∧ IsWide c) := by
  by_cases wide : IsWide c
  · have size := c.utf8Size_pos
    obtain ⟨byte, seen, wideByte⟩ := stands.octet?_wide wide (c.utf8Size - 1) (by omega)
    exact ⟨byte, seen, .inr ⟨wideByte, wide⟩⟩
  · rw [utf8Size_narrow wide]
    exact ⟨c, stands.octet?_narrow wide, .inl rfl⟩

/-- What is asked about one byte has the same answer for the character. -/
theorem StandsAt.any_octet? (stands : StandsAt text offset rest) (holds : Char → Bool)
    (narrow : ∀ d, IsWide d → holds d = false) :
    (octet? text offset).any holds = rest.head?.any holds := by
  cases rest with
  | nil => rw [stands.octet?_end, List.head?_nil]
  | cons c rest =>
    obtain ⟨byte, seen, rfl | ⟨wideByte, wide⟩⟩ := stands.first
    · rw [seen, List.head?_cons]
    · simp [seen, narrow byte wideByte, narrow c wide]

theorem eq_some_iff_any {d : Char} (seen : Option Char) :
    seen = some d ↔ seen.any (· == d) = true := by cases seen <;> simp

theorem StandsAt.octet?_eq_iff (stands : StandsAt text offset rest) (narrow : ¬ IsWide d) :
    octet? text offset = some d ↔ rest.head? = some d := by
  have other (e : Char) (wide : IsWide e) : (e == d) = false := by
    simpa using ne_of_isWide wide narrow
  rw [eq_some_iff_any, eq_some_iff_any, stands.any_octet? _ other]

/-! ## Passing characters -/

variable {α : Type} (scan : Nat → α)

/-- A scanner that steps over wide bytes comes from the first byte of a character to
    its end. -/
theorem StandsAt.finish (stands : StandsAt text offset (c :: rest))
    (steps : ∀ place d, octet? text place = some d → IsWide d → scan place = scan (place + 1)) :
    scan (offset + 1) = scan (offset + c.utf8Size) := by
  by_cases wide : IsWide c
  · have within (more : Nat) (inside : more < c.utf8Size) :
        scan (offset + (c.utf8Size - more)) = scan (offset + c.utf8Size) := by
      induction more with
      | zero => rfl
      | succ more ih =>
        obtain ⟨d, seen, wideByte⟩ := stands.octet?_wide wide (c.utf8Size - (more + 1)) (by omega)
        rw [steps _ d seen wideByte, ← ih (by omega)]
        congr 1
        omega
    have size := c.utf8Size_pos
    have whole := within (c.utf8Size - 1) (by omega)
    rwa [show c.utf8Size - (c.utf8Size - 1) = 1 by omega] at whole
  · rw [utf8Size_narrow wide]

/-- A scanner that steps over a kind of characters byte by byte leaves one of them
    behind it. -/
theorem StandsAt.pass (stands : StandsAt text offset (c :: rest)) (passed : Char → Prop)
    (steps : ∀ place d, octet? text place = some d → passed d → scan place = scan (place + 1))
    (here : passed c) (wide : ∀ d, IsWide d → passed d) :
    scan offset = scan (offset + c.utf8Size) := by
  have first : scan offset = scan (offset + 1) := by
    obtain ⟨byte, seen, rfl | ⟨wideByte, -⟩⟩ := stands.first
    · exact steps offset byte seen here
    · exact steps offset byte seen (wide byte wideByte)
  rw [first]
  exact stands.finish scan fun place d seen wideByte => steps place d seen (wide d wideByte)

end Standing

end Stencil.Text
