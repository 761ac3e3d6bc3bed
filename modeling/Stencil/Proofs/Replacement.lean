import Stencil.Proofs.Occurrences

/-! # Replacing marks from left to right

A replacement goes through a text once.  Where a mark begins it writes what
stands for the mark, everything else is copied.  Marks that do not overlap are
all replaced, and a stretch that no mark overlaps comes out as it went in; the
text around it is replaced as if it stood alone.

* `Replaced` — input and output of a replacement;
* `BeginsIn` — texts that may overlap;
* `Clear` — stretches that no mark overlaps;
* `Replaced.keeps` / `Replaced.arises` — such stretches in input and output;
* `replaceAll_replaced` — literal replacement is one;
* `Parted` / `replaceAll_append` — texts that are replaced part by part.
-/

namespace Stencil.Text

section Overlaps

variable {α β : Type} {part whole : List α}

/-! ## Overlaps -/

/-- Whether an occurrence of `part` may begin inside `whole`, which it may
    outlast. -/
def BeginsIn (part whole : List α) : Prop :=
  ∃ start ∈ whole.tails, start ≠ [] ∧ (part <+: start ∨ start <+: part)

instance [DecidableEq α] : Decidable (BeginsIn part whole) :=
  inferInstanceAs (Decidable (∃ start ∈ whole.tails, _))

theorem beginsIn_of_start {start rest : List α} (filled : start ≠ []) (inside : start <:+ whole)
    (begins : part <+: start ++ rest) : BeginsIn part whole :=
  ⟨start, (List.mem_tails _ _).2 inside, filled,
    List.prefix_or_prefix_of_prefix begins (List.prefix_append start rest)⟩

theorem BeginsIn.map (f : α → β) (begins : BeginsIn part whole) :
    BeginsIn (part.map f) (whole.map f) := by
  obtain ⟨start, inside, filled, overlap⟩ := begins
  refine ⟨start.map f, ?_, by simpa using filled, ?_⟩
  · exact (List.mem_tails _ _).2 (((List.mem_tails _ _).1 inside).map f)
  · exact overlap.imp (·.map f) (·.map f)

theorem BeginsIn.of_suffix {shorter : List α} (begins : BeginsIn part shorter)
    (inside : shorter <:+ whole) : BeginsIn part whole := by
  obtain ⟨start, within, filled, overlap⟩ := begins
  exact ⟨start, (List.mem_tails _ _).2 (((List.mem_tails _ _).1 within).trans inside), filled,
    overlap⟩

theorem suffix_tail_of_ne {start : List α} (inside : start <:+ whole) (proper : start ≠ whole) :
    start <:+ whole.tail := by
  cases whole with
  | nil => exact inside
  | cons item whole => exact (List.suffix_cons_iff.1 inside).resolve_left proper

/-- A suffix of two texts lies in the second or begins in the first. -/
theorem suffix_append_cases {start left right : List α} (inside : start <:+ left ++ right) :
    start <:+ right ∨ ∃ later, later ≠ [] ∧ later <:+ left ∧ start = later ++ right := by
  obtain ⟨front, split⟩ := inside
  rcases List.append_eq_append_iff.1 split with ⟨later, rfl, rfl⟩ | ⟨later, rfl, rfl⟩
  · cases later with
    | nil => exact .inl ⟨[], rfl⟩
    | cons item later => exact .inr ⟨item :: later, by simp, ⟨front, rfl⟩, rfl⟩
  · exact .inl ⟨later, rfl⟩

end Overlaps

section Replacement

variable {α β : Type} {rule : List α → List β → Prop} {copy : α → β} {input : List α}
  {output : List β}

/-! ## Replacement -/

/-- The output that a replacement makes of an input.  A rule says what is written
    for a mark. -/
inductive Replaced (rule : List α → List β → Prop) (copy : α → β) :
    List α → List β → Prop where
  | nil : Replaced rule copy [] []
  | mark {mark rest : List α} {written output : List β} (isMark : rule mark written)
      (later : Replaced rule copy rest output) :
      Replaced rule copy (mark ++ rest) (written ++ output)
  | other {item : α} {rest : List α} {output : List β}
      (unmarked : ∀ mark written, rule mark written → ¬ mark <+: item :: rest)
      (later : Replaced rule copy rest output) :
      Replaced rule copy (item :: rest) (copy item :: output)

/-- Where marks and what is written for them are not empty, nothing comes of
    nothing only. -/
theorem Replaced.nil_iff (replaced : Replaced rule copy input output)
    (filled : ∀ mark written, rule mark written → mark ≠ [] ∧ written ≠ []) :
    input = [] ↔ output = [] := by
  cases replaced with
  | nil => simp
  | mark isMark => simp [filled _ _ isMark]
  | other => simp

/-- Marks that neither overlap nor begin with one another. -/
structure Separate (rule : List α → List β → Prop) : Prop where
  apart : ∀ {mark other : List α} {written otherWritten : List β}, rule mark written →
    rule other otherWritten → ¬ BeginsIn other mark.tail
  same : ∀ {mark other rest : List α} {written otherWritten : List β}, rule mark written →
    rule other otherWritten → other <+: mark ++ rest → other = mark

/-- A stretch in which no mark begins. -/
def Unmarked (rule : List α → List β → Prop) (part after : List α) : Prop :=
  ∀ mark written, rule mark written → ∀ start, start ≠ [] → start <:+ part →
    ¬ mark <+: start ++ after

/-- A text out of which no mark reaches into what follows. -/
def Closed (rule : List α → List β → Prop) (before after : List α) : Prop :=
  ∀ mark written, rule mark written → ∀ start, start ≠ [] → start <:+ before →
    mark <+: start ++ after → mark <+: start

/-- A stretch of a text that no mark overlaps. -/
structure Clear (rule : List α → List β → Prop) (before part after : List α) : Prop where
  inside : Unmarked rule part after
  ahead : Closed rule before (part ++ after)

theorem Unmarked.of_suffix {part later after : List α} (unmarked : Unmarked rule part after)
    (shorter : later <:+ part) : Unmarked rule later after :=
  fun mark written isMark start filled inside =>
    unmarked mark written isMark start filled (inside.trans shorter)

theorem Closed.of_suffix {before later after : List α} (closed : Closed rule before after)
    (shorter : later <:+ before) : Closed rule later after :=
  fun mark written isMark start filled inside =>
    closed mark written isMark start filled (inside.trans shorter)

theorem Unmarked.cons {item : α} {part after : List α} (later : Unmarked rule part after)
    (first : ∀ mark written, rule mark written → ¬ mark <+: item :: (part ++ after)) :
    Unmarked rule (item :: part) after := by
  intro mark written isMark start filled inside
  rcases List.suffix_cons_iff.1 inside with rfl | deeper
  · exact first mark written isMark
  · exact later mark written isMark start filled deeper

theorem Closed.cons {item : α} {before after : List α} (later : Closed rule before after)
    (first : ∀ mark written, rule mark written → ¬ mark <+: item :: (before ++ after)) :
    Closed rule (item :: before) after := by
  intro mark written isMark start filled inside begins
  rcases List.suffix_cons_iff.1 inside with rfl | deeper
  · exact absurd begins (first mark written isMark)
  · exact later mark written isMark start filled deeper begins

/-- A stretch that cannot overlap a mark and does not begin with one is clear. -/
theorem Clear.of_apart {before part after : List α}
    (apart : ∀ mark written, rule mark written →
      ¬ BeginsIn mark part.tail ∧ ¬ BeginsIn part mark.tail ∧ ¬ mark <+: part ++ after) :
    Clear rule before part after := by
  constructor
  · intro mark written isMark start filled inside begins
    obtain ⟨notInside, -, notFirst⟩ := apart mark written isMark
    by_cases whole : start = part
    · exact notFirst (whole ▸ begins)
    · exact notInside (beginsIn_of_start filled (suffix_tail_of_ne inside whole) begins)
  · intro mark written isMark start filled _ begins
    obtain ⟨-, notReached, -⟩ := apart mark written isMark
    rcases List.prefix_or_prefix_of_prefix begins (List.prefix_append start _) with within | beyond
    · exact within
    · obtain ⟨rest, rfl⟩ := beyond
      have reaches : rest <+: part ++ after := (List.prefix_append_right_inj start).1 begins
      cases rest with
      | nil => simp
      | cons item rest =>
        refine absurd ⟨item :: rest, ?_, by simp, ?_⟩ notReached
        · cases start with
          | nil => exact absurd rfl filled
          | cons first start => exact (List.mem_tails _ _).2 (List.suffix_append start _)
        · exact (List.prefix_or_prefix_of_prefix reaches (List.prefix_append part after)).symm

/-! ## What is kept -/

/-- A stretch in which no mark begins is copied when it comes first. -/
theorem Replaced.keeps_first {part after : List α} (replaced : Replaced rule copy input output)
    (split : input = part ++ after) (unmarked : Unmarked rule part after) :
    ∃ right, output = part.map copy ++ right ∧ Replaced rule copy after right := by
  induction part generalizing input output with
  | nil =>
    rw [split] at replaced
    exact ⟨output, rfl, replaced⟩
  | cons item part ih =>
    cases replaced with
    | nil => cases split
    | mark isMark => exact absurd ⟨_, split⟩ (unmarked _ _ isMark _ (by simp) (List.suffix_refl _))
    | other _ later =>
      obtain ⟨rfl, rest⟩ := List.cons.inj split
      obtain ⟨right, rfl, last⟩ := ih later rest (unmarked.of_suffix (List.suffix_cons _ _))
      exact ⟨right, rfl, last⟩

/-- Stretches that no mark overlaps are kept. -/
theorem Replaced.keeps {before part after : List α} (replaced : Replaced rule copy input output)
    (split : input = before ++ (part ++ after)) (clear : Clear rule before part after) :
    ∃ left right, output = left ++ (part.map copy ++ right) ∧ Replaced rule copy before left ∧
      Replaced rule copy after right := by
  induction replaced generalizing before with
  | nil =>
    obtain ⟨rfl, rfl, rfl⟩ : before = [] ∧ part = [] ∧ after = [] := by simpa using split
    exact ⟨[], [], rfl, .nil, .nil⟩
  | mark isMark later ih =>
    cases before with
    | nil =>
      rw [List.nil_append] at split
      obtain ⟨right, kept, last⟩ := (Replaced.mark isMark later).keeps_first split clear.inside
      exact ⟨[], right, kept, .nil, last⟩
    | cons item before =>
      -- The mark cannot reach out of what comes first.
      obtain ⟨rest, within⟩ := clear.ahead _ _ isMark _ (by simp) (List.suffix_refl _) ⟨_, split⟩
      rw [← within, List.append_assoc, List.append_cancel_left_eq] at split
      obtain ⟨left, right, rfl, first, last⟩ :=
        ih split ⟨clear.inside, clear.ahead.of_suffix ⟨_, within⟩⟩
      exact ⟨_ ++ left, right, (List.append_assoc _ _ _).symm, within ▸ .mark isMark first, last⟩
  | other unmarked later ih =>
    cases before with
    | nil =>
      rw [List.nil_append] at split
      obtain ⟨right, kept, last⟩ := (Replaced.other unmarked later).keeps_first split clear.inside
      exact ⟨[], right, kept, .nil, last⟩
    | cons first before =>
      obtain ⟨rfl, rest⟩ := List.cons.inj split
      obtain ⟨left, right, rfl, begins, last⟩ :=
        ih rest ⟨clear.inside, clear.ahead.of_suffix (List.suffix_cons _ _)⟩
      refine ⟨_ :: left, right, rfl, .other ?_ begins, last⟩
      intro mark written isMark within
      refine unmarked mark written isMark ?_
      rw [split]
      exact within.trans (List.prefix_append _ _)

/-! ## Where output comes from -/

/-- Output in which nothing written can begin was copied when it comes first. -/
theorem Replaced.arises_first {part right : List β} (replaced : Replaced rule copy input output)
    (split : output = part ++ right)
    (apart : ∀ mark written, rule mark written → ¬ BeginsIn written part) :
    ∃ stretch after, input = stretch ++ after ∧ stretch.map copy = part ∧
      Replaced rule copy after right ∧ Unmarked rule stretch after := by
  induction part generalizing input output with
  | nil =>
    rw [split] at replaced
    refine ⟨[], input, rfl, rfl, replaced, ?_⟩
    intro mark written _ start filled inside
    exact absurd (List.suffix_nil.1 inside) filled
  | cons item part ih =>
    cases replaced with
    | nil => cases split
    | mark isMark =>
      exact absurd (beginsIn_of_start (by simp) (List.suffix_refl _) ⟨_, split⟩) (apart _ _ isMark)
    | other unmarked later =>
      obtain ⟨rfl, rest⟩ := List.cons.inj split
      obtain ⟨stretch, after, rfl, rfl, last, free⟩ :=
        ih later rest fun mark written isMark begins =>
          apart mark written isMark (begins.of_suffix (List.suffix_cons _ _))
      exact ⟨_ :: stretch, after, rfl, rfl, last, free.cons unmarked⟩

/-- A replaced mark does not reach beyond itself. -/
theorem Closed.mark {mark before after : List α} {written : List β} (separate : Separate rule)
    (isMark : rule mark written) (closed : Closed rule before after) :
    Closed rule (mark ++ before) after := by
  intro other otherWritten isOther start filled inside begins
  -- What begins in the mark is the mark, as marks are separate.
  rcases suffix_append_cases inside with later | ⟨later, nonempty, within, rfl⟩
  · exact closed other otherWritten isOther start filled later begins
  · rw [List.append_assoc] at begins
    by_cases whole : later = mark
    · rw [whole] at begins ⊢
      rw [separate.same isMark isOther begins]
      exact List.prefix_append _ _
    · exact absurd (beginsIn_of_start nonempty (suffix_tail_of_ne within whole) begins)
        (separate.apart isMark isOther)

/-- Output that cannot overlap anything written was copied. -/
theorem Replaced.arises {left part right : List β} (replaced : Replaced rule copy input output)
    (separate : Separate rule) (filled : part ≠ []) (split : output = left ++ (part ++ right))
    (apart : ∀ mark written, rule mark written →
      ¬ BeginsIn written part.tail ∧ ¬ BeginsIn part written) :
    ∃ before stretch after, input = before ++ (stretch ++ after) ∧ stretch.map copy = part ∧
      Replaced rule copy before left ∧ Replaced rule copy after right ∧
      Clear rule before stretch after := by
  -- On the way to the part everything that is left behind is `Closed`.
  induction replaced generalizing left with
  | nil =>
    obtain ⟨-, empty, -⟩ : left = [] ∧ part = [] ∧ right = [] := by simpa using split
    exact absurd empty filled
  | @mark mark rest written output isMark later ih =>
    -- The part does not begin in what is written for the mark.
    obtain ⟨left, rfl, tail⟩ : ∃ later, left = written ++ later ∧
        output = later ++ (part ++ right) := by
      rcases List.append_eq_append_iff.1 split with ⟨later, same, rest⟩ | ⟨later, same, rest⟩
      · exact ⟨later, same, rest⟩
      · by_cases nothing : later = []
        · subst nothing
          exact ⟨[], by simpa using same.symm, by simpa using rest.symm⟩
        · exact absurd (beginsIn_of_start nothing ⟨left, same.symm⟩ ⟨right, rest⟩)
            (apart mark written isMark).2
    obtain ⟨before, stretch, after, rfl, copied, first, last, clear⟩ := ih tail
    exact ⟨mark ++ before, stretch, after, (List.append_assoc _ _ _).symm, copied,
      .mark isMark first, last, clear.inside, clear.ahead.mark separate isMark⟩
  | @other item rest output unmarked later ih =>
    cases left with
    | nil =>
      cases part with
      | nil => exact absurd rfl filled
      | cons first part =>
        obtain ⟨rfl, tail⟩ := List.cons.inj split
        obtain ⟨stretch, after, rfl, rfl, last, free⟩ :=
          later.arises_first tail fun mark written isMark => (apart mark written isMark).1
        refine ⟨[], item :: stretch, after, rfl, rfl, .nil, last, free.cons unmarked, ?_⟩
        intro mark written _ start nonempty inside
        exact absurd (List.suffix_nil.1 inside) nonempty
    | cons first left =>
      obtain ⟨rfl, tail⟩ := List.cons.inj split
      obtain ⟨before, stretch, after, rfl, copied, first, last, clear⟩ := ih tail
      refine ⟨item :: before, stretch, after, rfl, copied, .other ?_ first, last, clear.inside,
        clear.ahead.cons unmarked⟩
      intro mark written isMark within
      exact unmarked mark written isMark
        (within.trans (List.prefix_append (item :: before) (stretch ++ after)))

/-! ## Literal replacement -/

theorem replaceFrom_replaced {mark replacement : List Char} (filled : mark ≠ []) (skip : Nat)
    (text : List Char) :
    Replaced (fun part written => part = mark ∧ written = replacement) id (text.drop skip)
      (replaceFrom mark replacement skip text) := by
  fun_induction replaceFrom mark replacement skip text with
  | case1 skip =>
    rw [List.drop_nil]
    exact .nil
  | case2 skip _ rest ih => exact ih
  | case3 c rest starts ih =>
    obtain ⟨after, split⟩ := List.isPrefixOf_iff_prefix.1 starts
    have passed : rest.drop (mark.length - 1) = after := by
      cases mark with
      | nil => exact absurd rfl filled
      | cons first mark =>
        obtain ⟨-, rfl⟩ := List.cons.inj split
        simp
    rw [passed] at ih
    rw [List.drop_zero, ← split]
    exact .mark ⟨rfl, rfl⟩ ih
  | case4 c rest differs ih =>
    refine .other ?_ ih
    rintro part written ⟨rfl, rfl⟩ begins
    exact differs (List.isPrefixOf_iff_prefix.2 begins)

/-- Literal replacement replaces its mark from left to right. -/
theorem replaceAll_replaced {mark : List Char} (filled : mark ≠ []) (replacement text : List Char) :
    Replaced (fun part written => part = mark ∧ written = replacement) id text
      (replaceAll mark replacement text) :=
  replaceFrom_replaced filled 0 text

end Replacement

/-! ## Counting -/

section Counting

variable {rule : List Char → List Char → Prop} {input output : List Char} {c : Char}

/-- A text without marks comes out as it went in. -/
theorem Replaced.eq_of_absent (replaced : Replaced rule id input output)
    (absent : ∀ mark written, rule mark written → ¬ mark <:+: input) : output = input := by
  induction replaced with
  | nil => rfl
  | mark isMark _ _ => exact absurd (List.prefix_append ..).isInfix (absent _ _ isMark)
  | other _ _ ih =>
    rw [id_eq, ih fun mark written isMark inside =>
      absent mark written isMark (inside.trans (List.suffix_cons ..).isInfix)]

theorem Replaced.count_eq (replaced : Replaced rule id input output)
    (same : ∀ mark written, rule mark written → written.count c = mark.count c) :
    output.count c = input.count c := by
  induction replaced with
  | nil => rfl
  | mark isMark _ ih => rw [List.count_append, List.count_append, same _ _ isMark, ih]
  | other _ _ ih => rw [id_eq, List.count_cons, List.count_cons, ih]

theorem Replaced.count_le (replaced : Replaced rule id input output)
    (more : ∀ mark written, rule mark written → mark.count c ≤ written.count c) :
    input.count c ≤ output.count c := by
  induction replaced with
  | nil => exact Nat.le_refl _
  | mark isMark _ ih =>
    rw [List.count_append, List.count_append]
    exact Nat.add_le_add (more _ _ isMark) ih
  | other _ _ ih =>
    rw [id_eq, List.count_cons, List.count_cons]
    exact Nat.add_le_add_right ih _

/-- Nothing was replaced if every mark would have added a character that was not
    added. -/
theorem Replaced.eq_of_count (replaced : Replaced rule id input output)
    (more : ∀ mark written, rule mark written → mark.count c < written.count c)
    (same : output.count c = input.count c) : output = input := by
  induction replaced with
  | nil => rfl
  | mark isMark later _ =>
    have added := more _ _ isMark
    have others := later.count_le fun mark written isMark => Nat.le_of_lt (more mark written isMark)
    rw [List.count_append, List.count_append] at same
    omega
  | other _ _ ih =>
    rw [id_eq, List.count_cons, List.count_cons, Nat.add_right_cancel_iff] at same
    rw [id_eq, ih same]

end Counting

section Parts

variable {mark replacement left right text tail begin more output : List Char} {c : Char}

/-! ## Replacing part by part -/

/-- The output of a literal replacement is what `replaceAll` returns. -/
theorem Replaced.eq_replaceAll (filled : mark ≠ [])
    (replaced : Replaced (fun part written => part = mark ∧ written = replacement) id text output) :
    output = replaceAll mark replacement text := by
  induction replaced with
  | nil => rfl
  | mark isMark _ ih =>
    obtain ⟨rfl, rfl⟩ := isMark
    rw [replaceAll_mark filled, ih]
  | other unmarked _ ih =>
    rw [replaceAll_cons (unmarked mark replacement ⟨rfl, rfl⟩), ih]
    rfl

/-- Whether no occurrence of the mark lies over the seam of two texts. -/
def Parted (mark left right : List Char) : Prop :=
  ∀ start rest, start ++ rest = mark → start ≠ [] → rest ≠ [] → start <:+ left → ¬ rest <+: right

theorem parted_of_apart (apart : ¬ BeginsIn begin mark.tail) : Parted mark left (begin ++ more) := by
  rintro start rest rfl nonempty others - begins
  apply apart
  refine ⟨rest, (List.mem_tails _ _).2 ?_, others,
    List.prefix_or_prefix_of_prefix (List.prefix_append begin more) begins⟩
  obtain ⟨first, start, rfl⟩ := List.exists_cons_of_ne_nil nonempty
  exact List.suffix_append start rest

theorem replaceAll_append (filled : mark ≠ []) (parted : Parted mark left right) :
    replaceAll mark replacement (left ++ right) =
      replaceAll mark replacement left ++ replaceAll mark replacement right := by
  have clear : Clear (fun part written => part = mark ∧ written = replacement) left [] right := by
    constructor
    · rintro _ _ - start nonempty inside
      exact absurd (List.suffix_nil.1 inside) nonempty
    · rintro _ _ ⟨rfl, -⟩ start nonempty inside begins
      rcases List.prefix_or_prefix_of_prefix begins (List.prefix_append start right) with
        within | ⟨rest, split⟩
      · exact within
      · -- The mark goes on in the right text, so it lies over the seam.
        rw [← split, List.nil_append, List.prefix_append_right_inj] at begins
        by_cases last : rest = []
        · simp [← split, last]
        · exact absurd begins (parted start rest split nonempty last inside)
  obtain ⟨first, second, whole, before, after⟩ :=
    (replaceAll_replaced filled replacement (left ++ right)).keeps rfl clear
  rw [whole, before.eq_replaceAll filled, after.eq_replaceAll filled]
  rfl

theorem replaceAll_of_absent (filled : mark ≠ []) (absent : ¬ mark <:+: text) :
    replaceAll mark replacement text = text :=
  (replaceAll_replaced filled replacement text).eq_of_absent fun _ _ isMark => isMark.1 ▸ absent

/-! ## The ends of a result -/

theorem head?_of_replaceAll (filled : mark ≠ []) (written : replacement ≠ [])
    (other : c ∉ replacement.head?) (first : c ∈ (replaceAll mark replacement text).head?) :
    c ∈ text.head? := by
  have replaced := replaceAll_replaced filled replacement text
  generalize replaceAll mark replacement text = output at first replaced
  cases replaced with
  | nil => exact first
  | mark isMark =>
    obtain ⟨rfl, rfl⟩ := isMark
    rw [List.head?_append_of_ne_nil _ written] at first
    exact absurd first other
  | other => exact first

/-- The last character of a result ends the text or a replacement. -/
theorem getLast?_of_replaceAll (filled : mark ≠ []) (written : replacement ≠ [])
    (last : c ∈ (replaceAll mark replacement text).getLast?) :
    c ∈ text.getLast? ∨ c ∈ replacement.getLast? := by
  have replaced := replaceAll_replaced filled replacement text
  generalize replaceAll mark replacement text = output at last replaced
  induction replaced with
  | nil => cases last
  | @mark part rest out output isMark later ih =>
    obtain ⟨rfl, rfl⟩ := isMark
    -- The last character is one of what follows, unless nothing follows.
    rw [List.getLast?_append] at last ⊢
    cases ended : output.getLast? with
    | none => exact .inr (by simpa [ended] using last)
    | some d =>
      obtain rfl : d = c := by simpa [ended] using last
      refine (ih ended).imp_left fun found => ?_
      rw [show rest.getLast? = some d from found]
      rfl
  | @other item rest output unmarked later ih =>
    have nothing := later.nil_iff fun part out isMark => ⟨isMark.1 ▸ filled, isMark.2 ▸ written⟩
    cases rest with
    | nil =>
      rw [nothing.1 rfl] at last
      exact .inl last
    | cons next rest =>
      obtain ⟨first, output, rfl⟩ := List.exists_cons_of_ne_nil fun empty => by
        cases nothing.2 empty
      exact ih last

/-- An ending of a result that shares no character with the ends of the mark and of
    what is written for it ends the text. -/
theorem suffix_of_replaceAll (filled : mark ≠ []) (written : replacement ≠ [])
    (apart : ∀ c ∈ tail, c ∉ mark.getLast? ∧ c ∉ replacement.getLast?)
    (ends : tail <:+ replaceAll mark replacement text) : tail <:+ text := by
  induction tail using List.reverseRecOn generalizing text with
  | nil => exact List.nil_suffix
  | append_singleton tail c ih =>
    obtain ⟨notMark, notWritten⟩ := apart c (by simp)
    obtain ⟨front, split⟩ := ends
    have last : c ∈ (replaceAll mark replacement text).getLast? := by simp [← split]
    have inText := (getLast?_of_replaceAll filled written last).resolve_right notWritten
    obtain ⟨before, rfl⟩ := List.getLast?_eq_some_iff.1 inText
    -- No mark ends in the last character, so that character is copied.
    have noSuffix : ¬ mark <:+ [c] := by
      intro inside
      rcases List.suffix_cons_iff.1 inside with rfl | empty
      · exact notMark rfl
      · exact filled (List.suffix_nil.1 empty)
    have parted : Parted mark before [c] := by
      rintro start rest rfl - others - begins
      obtain rfl : rest = [c] := begins.eq_of_length_le (List.length_pos_iff.2 others)
      exact notMark (by simp)
    have single : ¬ mark <:+: [c] := by
      intro inside
      have whole := inside.sublist.eq_of_length_le (List.length_pos_iff.2 filled)
      exact noSuffix ⟨[], whole⟩
    rw [replaceAll_append filled parted, replaceAll_of_absent filled single, ← List.append_assoc,
      List.append_cancel_right_eq] at split
    obtain ⟨rest, rfl⟩ := ih (fun d listed => apart d (List.mem_append_left _ listed)) ⟨front, split⟩
    exact ⟨rest, by simp⟩

end Parts

end Stencil.Text
