import Mathlib.Data.List.Infix
import Stencil.Text.Search

/-! # Where a mark occurs

Searching and replacing pass a stretch of a text unchanged when no occurrence of
the mark begins in it.  An occurrence may outlast the stretch, so what follows
the stretch counts.

* `Untouched` — stretches in which no occurrence begins;
* `splitFirst?_eq_some_iff` — the first occurrence lies behind them;
* `occurs_iff` — a search finds what is there;
* `replaceAll_of_untouched` — they are copied.
-/

namespace Stencil.Text

variable {mark part after : List Char}

/-- Whether no occurrence of the mark begins in a stretch of a text. -/
def Untouched (mark part after : List Char) : Prop :=
  ∀ start, start ≠ [] → start <:+ part → ¬ mark <+: start ++ after

theorem untouched_nil : Untouched mark [] after := fun _ filled inside =>
  absurd (List.suffix_nil.1 inside) filled

theorem untouched_cons {c : Char} :
    Untouched mark (c :: part) after ↔
      ¬ mark <+: c :: (part ++ after) ∧ Untouched mark part after := by
  constructor
  · intro untouched
    refine ⟨untouched (c :: part) (by simp) (List.suffix_refl _), ?_⟩
    intro start filled inside
    exact untouched start filled (inside.trans (List.suffix_cons c part))
  · rintro ⟨first, later⟩ start filled inside
    rcases List.suffix_cons_iff.1 inside with rfl | deeper
    · exact first
    · exact later start filled deeper

theorem untouched_append {left right : List Char} :
    Untouched mark (left ++ right) after ↔
      Untouched mark left (right ++ after) ∧ Untouched mark right after := by
  induction left with
  | nil => simp [untouched_nil]
  | cons c left ih =>
    rw [List.cons_append, untouched_cons, untouched_cons, ih, List.append_assoc, and_assoc]

/-- An occurrence of a longer mark begins where one of its beginning does. -/
theorem Untouched.longer {longer : List Char} (untouched : Untouched mark part after)
    (begins : mark <+: longer) : Untouched longer part after :=
  fun start filled inside reaches => untouched start filled inside (begins.trans reaches)

/-- No occurrence leaves a stretch when what follows goes on with none of its
    later characters. -/
theorem untouched_of_absent (absent : ¬ mark <:+: part)
    (stops : ∀ c ∈ after.head?, c ∉ mark.tail) : Untouched mark part after := by
  intro start filled inside reaches
  rcases List.prefix_or_prefix_of_prefix reaches (List.prefix_append start after) with
    within | ⟨rest, split⟩
  · exact absent (within.isInfix.trans inside.isInfix)
  · cases rest with
    | nil =>
      rw [List.append_nil] at split
      exact absent (split ▸ inside.isInfix)
    | cons c rest =>
      -- The rest of the mark is what follows, and the mark began before.
      rw [← split, List.prefix_append_right_inj] at reaches
      obtain ⟨later, continued⟩ := reaches
      refine stops c (by rw [← continued]; rfl) ?_
      cases start with
      | nil => exact absurd rfl filled
      | cons first start =>
        rw [← split]
        simp

theorem not_infix_of_untouched (filled : mark ≠ []) (untouched : Untouched mark part []) :
    ¬ mark <:+: part := by
  rintro ⟨before, later, rfl⟩
  rw [List.append_assoc] at untouched
  refine (untouched_append.1 untouched).2 (mark ++ later) (by simp [filled])
    (List.suffix_refl _) ?_
  exact ⟨later, by simp⟩

/-- A mark that begins in a stretch lies in it or overlaps the mark behind it. -/
theorem untouched_mark_iff (filled : mark ≠ []) :
    Untouched mark part (mark ++ after) ↔ ¬ mark <:+: part ++ mark.dropLast := by
  have shorter : mark.dropLast.length + 1 = mark.length := by
    have := List.length_pos_iff.2 filled
    rw [List.length_dropLast]
    omega
  have within (start : List Char) : start ++ mark.dropLast <+: start ++ (mark ++ after) :=
    (List.prefix_append_right_inj start).2
      ((List.dropLast_prefix mark).trans (List.prefix_append _ _))
  constructor
  · rintro untouched ⟨front, back, split⟩
    -- The occurrence is too long to begin behind the part.
    have lengths := congrArg List.length split
    simp only [List.length_append] at lengths
    rw [List.append_assoc] at split
    rcases List.append_eq_append_iff.1 split with ⟨start, rfl, rest⟩ | ⟨start, rfl, _⟩
    · have nonempty : start ≠ [] := by
        rintro rfl
        simp at lengths
        omega
      refine untouched start nonempty (List.suffix_append _ _) ?_
      exact (List.prefix_append mark back).trans (rest ▸ within start)
    · simp only [List.length_append] at lengths
      omega
  · intro absent start nonempty inside begins
    have fits : mark <+: start ++ mark.dropLast := by
      apply List.prefix_of_prefix_length_le begins (within start)
      have := List.length_pos_iff.2 nonempty
      rw [List.length_append]
      omega
    obtain ⟨front, rfl⟩ := inside
    refine absent (fits.isInfix.trans ?_)
    rw [List.append_assoc]
    exact (List.suffix_append _ _).isInfix

/-! ## Searching -/

theorem isPrefixOf?_eq_none_iff {text : List Char} :
    mark.isPrefixOf? text = none ↔ ¬ mark <+: text := by
  constructor
  · rintro none ⟨rest, split⟩
    rw [isPrefixOf?_eq_some_iff.2 split] at none
    cases none
  · intro other
    cases found : mark.isPrefixOf? text with
    | none => rfl
    | some rest => exact absurd ⟨rest, isPrefixOf?_eq_some_iff.1 found⟩ other

theorem splitFirst?_cons {c : Char} {text : List Char} (other : ¬ mark <+: c :: text) :
    splitFirst? mark (c :: text) =
      (splitFirst? mark text).map fun (before, after) => (c :: before, after) := by
  rw [splitFirst?, isPrefixOf?_eq_none_iff.2 other]

theorem splitFirst?_mark (filled : mark ≠ []) (after : List Char) :
    splitFirst? mark (mark ++ after) = some ([], after) := by
  have found : mark.isPrefixOf? (mark ++ after) = some after := isPrefixOf?_eq_some_iff.2 rfl
  obtain ⟨c, rest, rfl⟩ := List.exists_cons_of_ne_nil filled
  rw [List.cons_append] at found ⊢
  rw [splitFirst?, found]

/-- The first occurrence of a mark is the one behind an untouched stretch. -/
theorem splitFirst?_of_untouched (filled : mark ≠ [])
    (untouched : Untouched mark part (mark ++ after)) :
    splitFirst? mark (part ++ (mark ++ after)) = some (part, after) := by
  induction part with
  | nil => exact splitFirst?_mark filled after
  | cons c part ih =>
    obtain ⟨first, later⟩ := untouched_cons.1 untouched
    rw [List.cons_append, splitFirst?_cons first, ih later]
    rfl

/-- What is found in a text is found with more behind it. -/
theorem splitFirst?_append_right {text before after : List Char}
    (found : splitFirst? mark text = some (before, after)) (filled : mark ≠ [])
    (more : List Char) : splitFirst? mark (text ++ more) = some (before, after ++ more) := by
  fun_induction splitFirst? mark text generalizing before with
  | case1 empty => exact absurd (List.isEmpty_iff.1 empty) filled
  | case2 => cases found
  | case3 c rest tail starts =>
    cases found
    rw [← isPrefixOf?_eq_some_iff.1 starts, List.append_assoc]
    exact splitFirst?_mark filled _
  | case4 c rest other ih =>
    obtain ⟨⟨inner, _⟩, deeper, same⟩ := Option.map_eq_some_iff.1 found
    cases same
    -- The mark fits into the text, so it begins no earlier with more behind.
    have apart : ¬ mark <+: c :: (rest ++ more) := by
      intro begins
      apply isPrefixOf?_eq_none_iff.1 other
      apply List.prefix_of_prefix_length_le begins (List.prefix_append (c :: rest) more)
      rw [← splitFirst?_append deeper]
      simp only [List.length_cons, List.length_append]
      omega
    rw [List.cons_append, splitFirst?_cons apart, ih deeper]
    rfl

/-- A search finds the first occurrence, which overlaps no earlier one. -/
theorem splitFirst?_eq_some_iff {text body : List Char} (filled : mark ≠ []) :
    splitFirst? mark text = some (body, after) ↔
      body ++ (mark ++ after) = text ∧ ¬ mark <:+: body ++ mark.dropLast := by
  rw [← @untouched_mark_iff mark body after filled]
  constructor
  · intro found
    refine ⟨by simpa using splitFirst?_append found, ?_⟩
    fun_induction splitFirst? mark text generalizing body with
    | case1 empty => exact absurd (List.isEmpty_iff.1 empty) filled
    | case2 => cases found
    | case3 => cases found; exact untouched_nil
    | case4 c rest other ih =>
      obtain ⟨⟨inner, _⟩, deeper, same⟩ := Option.map_eq_some_iff.1 found
      cases same
      have split := splitFirst?_append deeper
      rw [List.append_assoc] at split
      exact untouched_cons.2 ⟨split ▸ isPrefixOf?_eq_none_iff.1 other, ih deeper⟩
  · rintro ⟨rfl, untouched⟩
    exact splitFirst?_of_untouched filled untouched

theorem splitFirst?_eq_none {text : List Char} (absent : ¬ mark <:+: text) :
    splitFirst? mark text = none := by
  cases found : splitFirst? mark text with
  | none => rfl
  | some parts =>
    obtain ⟨before, after⟩ := parts
    exact absurd ⟨before, after, splitFirst?_append found⟩ absent

theorem occurs_iff {text : List Char} : occurs mark text = true ↔ mark <:+: text := by
  constructor
  · intro found
    obtain ⟨⟨before, after⟩, split⟩ := Option.isSome_iff_exists.1 found
    exact ⟨before, after, splitFirst?_append split⟩
  · intro inside
    -- A search that finds nothing has passed the occurrence.
    obtain ⟨before, after, rfl⟩ := inside
    unfold occurs
    induction before with
    | nil =>
      rw [List.nil_append]
      by_cases filled : mark = []
      · subst filled
        cases after <;> rfl
      · rw [splitFirst?_mark filled]
        rfl
    | cons c before ih =>
      simp only [List.cons_append, splitFirst?]
      split
      · rfl
      · rwa [Option.isSome_map]

/-! ## Replacing -/

variable {replacement : List Char}

theorem replaceFrom_drop (skip : Nat) (text : List Char) :
    replaceFrom mark replacement skip text = replaceAll mark replacement (text.drop skip) := by
  induction text generalizing skip with
  | nil => cases skip <;> rfl
  | cons c text ih =>
    cases skip with
    | zero => rfl
    | succ skip => exact ih skip

theorem replaceAll_cons {c : Char} {text : List Char} (other : ¬ mark <+: c :: text) :
    replaceAll mark replacement (c :: text) = c :: replaceAll mark replacement text := by
  have apart : mark.isPrefixOf (c :: text) = false := by
    rw [← Bool.not_eq_true, List.isPrefixOf_iff_prefix]
    exact other
  rw [replaceAll, replaceFrom, apart]
  rfl

theorem replaceAll_mark (filled : mark ≠ []) (after : List Char) :
    replaceAll mark replacement (mark ++ after) =
      replacement ++ replaceAll mark replacement after := by
  obtain ⟨c, rest, rfl⟩ := List.exists_cons_of_ne_nil filled
  have begins : (c :: rest).isPrefixOf (c :: (rest ++ after)) = true :=
    List.isPrefixOf_iff_prefix.2 ⟨after, rfl⟩
  rw [List.cons_append, replaceAll, replaceFrom, begins, if_pos rfl, replaceFrom_drop]
  simp

/-- A replacement copies what it does not touch. -/
theorem replaceAll_of_untouched (untouched : Untouched mark part after) :
    replaceAll mark replacement (part ++ after) =
      part ++ replaceAll mark replacement after := by
  induction part with
  | nil => rfl
  | cons c part ih =>
    obtain ⟨first, later⟩ := untouched_cons.1 untouched
    rw [List.cons_append, replaceAll_cons first, ih later, List.cons_append]

end Stencil.Text
