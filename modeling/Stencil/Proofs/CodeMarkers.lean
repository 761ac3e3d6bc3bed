import Stencil.Php.Emit
import Stencil.Proofs.Replacement
import Stencil.Text.CaseFold

/-! # Code markers

PHP begins at `<?php` or `<?=` and ends at `?>`, in any letter case.  In a text
that is made inert these are replaced from left to right by forms with character
entities, which cannot be parts of markers themselves.

* `IsMarker` / `HasMarker` — markers, and texts that hold one;
* `Inert` — what is written for a marker;
* `neutralize_replaced` — making text inert is a replacement of the markers;
* `Joins` — the end of a block followed by the beginning of another.
-/

namespace Stencil.Php

open Stencil.Text (BeginsIn Replaced Separate Clear replaceAll_replaced beginsIn_of_start
  suffix_tail_of_ne eq_of_toLower)

/-! ## Markers -/

/-- The markers that begin and end code, in lower case. -/
def codeMarkers : List (List Char) := ["<?php".toList, "<?=".toList, "?>".toList]

/-- A code marker in any letter case. -/
def IsMarker (text : List Char) : Prop := text.map Char.toLower ∈ codeMarkers

/-- Whether a text holds a code marker. -/
def HasMarker (text : List Char) : Prop := ∃ marker, IsMarker marker ∧ marker <:+: text

/-- What is written for a code marker. -/
inductive Inert : List Char → List Char → Prop where
  | code {letters : List Char} (php : letters.map Char.toLower = "php".toList) :
      Inert ('<' :: '?' :: letters) "&lt;?php".toList
  | echo : Inert "<?=".toList "&lt;?=".toList
  | close : Inert "?>".toList "?&gt;".toList

instance (text : List Char) : Decidable (IsMarker text) :=
  inferInstanceAs (Decidable (_ ∈ codeMarkers))

theorem hasMarker_iff {text : List Char} :
    HasMarker text ↔ ∃ lower ∈ codeMarkers, lower <:+: text.map Char.toLower := by
  constructor
  · rintro ⟨marker, isMarker, inside⟩
    exact ⟨_, isMarker, inside.map Char.toLower⟩
  · rintro ⟨lower, listed, inside⟩
    obtain ⟨marker, within, rfl⟩ := List.infix_map_iff.1 inside
    exact ⟨marker, listed, within⟩

instance (text : List Char) : Decidable (HasMarker text) := decidable_of_iff _ hasMarker_iff.symm

theorem exists_of_map_toLower {text rest : List Char} (c : Char) (symbol : c.isLower = false)
    (lower : text.map Char.toLower = c :: rest) :
    ∃ later, text = c :: later ∧ later.map Char.toLower = rest := by
  obtain ⟨first, later, rfl, same, others⟩ := List.map_eq_cons_iff.1 lower
  exact ⟨later, by rw [eq_of_toLower same symbol], others⟩

/-- The code markers are those that something is written for. -/
theorem isMarker_iff {text : List Char} : IsMarker text ↔ ∃ written, Inert text written := by
  constructor
  · intro marker
    simp only [IsMarker, codeMarkers, List.mem_cons, List.not_mem_nil, or_false] at marker
    rcases marker with code | echo | close
    · obtain ⟨later, rfl, rest⟩ := exists_of_map_toLower '<' rfl code
      obtain ⟨letters, rfl, php⟩ := exists_of_map_toLower '?' rfl rest
      exact ⟨_, .code php⟩
    · obtain ⟨later, rfl, rest⟩ := exists_of_map_toLower '<' rfl echo
      obtain ⟨later, rfl, last⟩ := exists_of_map_toLower '?' rfl rest
      obtain ⟨later, rfl, nothing⟩ := exists_of_map_toLower '=' rfl last
      rw [List.map_eq_nil_iff.1 nothing]
      exact ⟨_, .echo⟩
    · obtain ⟨later, rfl, rest⟩ := exists_of_map_toLower '?' rfl close
      obtain ⟨later, rfl, nothing⟩ := exists_of_map_toLower '>' rfl rest
      rw [List.map_eq_nil_iff.1 nothing]
      exact ⟨_, .close⟩
  · rintro ⟨written, inert⟩
    cases inert with
    | code php =>
      refine List.mem_cons.2 (.inl ?_)
      rw [List.map_cons, List.map_cons, php]
      rfl
    | echo => decide
    | close => decide

theorem IsMarker.ne_nil {marker : List Char} (isMarker : IsMarker marker) : marker ≠ [] := by
  rintro rfl
  exact absurd isMarker (by decide)

/-! ## Overlaps -/

/-- The forms written for markers. -/
def inertForms : List (List Char) := ["&lt;?php".toList, "&lt;?=".toList, "?&gt;".toList]

theorem Inert.written_mem {marker written : List Char} (inert : Inert marker written) :
    written ∈ inertForms := by
  cases inert <;> decide

theorem Inert.isMarker {marker written : List Char} (inert : Inert marker written) :
    IsMarker marker :=
  isMarker_iff.2 ⟨written, inert⟩

theorem IsMarker.not_beginsIn {marker whole : List Char} (isMarker : IsMarker marker)
    (free : ∀ lower ∈ codeMarkers, ¬ BeginsIn lower (whole.map Char.toLower)) :
    ¬ BeginsIn marker whole :=
  fun begins => free _ isMarker (begins.map Char.toLower)

theorem IsMarker.tail_not_beginsIn {marker part : List Char} (isMarker : IsMarker marker)
    (free : ∀ lower ∈ codeMarkers, ¬ BeginsIn (part.map Char.toLower) lower.tail) :
    ¬ BeginsIn part marker.tail := by
  intro begins
  have lower := begins.map Char.toLower
  rw [List.map_tail] at lower
  exact free _ isMarker lower

/-- Markers do not overlap. -/
theorem IsMarker.apart {marker other : List Char} (isMarker : IsMarker marker)
    (isOther : IsMarker other) : ¬ BeginsIn other marker.tail := by
  have closed : ∀ lower ∈ codeMarkers, ∀ otherLower ∈ codeMarkers,
      ¬ BeginsIn otherLower lower.tail := by decide
  exact isMarker.tail_not_beginsIn fun lower listed => closed lower listed _ isOther

/-- A marker does not begin with another. -/
theorem IsMarker.same {marker other rest : List Char} (isMarker : IsMarker marker)
    (isOther : IsMarker other) (begins : other <+: marker ++ rest) : other = marker := by
  have closed : ∀ lower ∈ codeMarkers, ∀ otherLower ∈ codeMarkers,
      otherLower <+: lower ∨ lower <+: otherLower → otherLower = lower := by decide
  have overlap := List.prefix_or_prefix_of_prefix begins (List.prefix_append marker rest)
  have lengths : (other.map Char.toLower).length = (marker.map Char.toLower).length :=
    congrArg _ (closed _ isMarker _ isOther (overlap.imp (·.map _) (·.map _)))
  rw [List.length_map, List.length_map] at lengths
  rcases overlap with shorter | longer
  · exact shorter.eq_of_length lengths
  · exact (longer.eq_of_length lengths.symm).symm

theorem Inert.not_beginsIn_written {marker written other : List Char}
    (inert : Inert marker written) (isOther : IsMarker other) : ¬ BeginsIn other written := by
  have closed : ∀ form ∈ inertForms, ∀ lower ∈ codeMarkers,
      ¬ BeginsIn lower (form.map Char.toLower) := by decide
  exact isOther.not_beginsIn (closed _ inert.written_mem)

theorem Inert.written_not_beginsIn {marker written other : List Char}
    (inert : Inert marker written) (isOther : IsMarker other) :
    ¬ BeginsIn written other.tail := by
  have closed : ∀ form ∈ inertForms, ∀ lower ∈ codeMarkers,
      ¬ BeginsIn (form.map Char.toLower) lower.tail := by decide
  exact isOther.tail_not_beginsIn (closed _ inert.written_mem)

/-! ## Making text inert -/

theorem startsWithPhp_iff {text : List Char} :
    startsWithPhp text = true ↔
      ∃ letters after, letters.map Char.toLower = "php".toList ∧ text = letters ++ after := by
  constructor
  · intro starts
    unfold startsWithPhp at starts
    split at starts
    · rename_i p h q after
      simp only [Bool.and_eq_true, beq_iff_eq] at starts
      exact ⟨[p, h, q], after, by simp [starts], rfl⟩
    · cases starts
  · rintro ⟨letters, after, php, rfl⟩
    have three : letters.length = 3 := by simpa using congrArg List.length php
    obtain ⟨p, h, q, rfl⟩ := List.length_eq_three.1 three
    simpa [startsWithPhp, and_assoc] using php

/-- The markers of the part of a text that is not passed over are replaced. -/
theorem neutralizeFrom_replaced (skip : Nat) (text : List Char) :
    Replaced Inert id (text.drop skip) (neutralizeFrom skip text) := by
  fun_induction neutralizeFrom skip text with
  | case1 skip =>
    rw [List.drop_nil]
    exact .nil
  | case2 skip _ rest ih => exact ih
  | case3 rest starts ih =>
    obtain ⟨letters, after, php, rfl⟩ := startsWithPhp_iff.1 starts
    have three : letters.length = 3 := by simpa using congrArg List.length php
    rw [List.drop_succ_cons, ← three, List.drop_left] at ih
    exact .mark (.code php) ih
  | case4 rest _ echo ih =>
    obtain ⟨after, rfl⟩ := List.head?_eq_some_iff.1 echo
    exact .mark .echo ih
  | case5 rest notPhp notEcho ih =>
    refine .other ?_ ih
    rintro mark written inert ⟨after, same⟩
    cases inert with
    | code php =>
      simp only [List.cons_append, List.cons.injEq, true_and] at same
      exact notPhp (startsWithPhp_iff.2 ⟨_, after, php, same.symm⟩)
    | echo =>
      cases same
      exact notEcho rfl
    | close => cases same
  | case6 rest ih => exact .mark .close ih
  | case7 c rest notOpen notClose ih =>
    refine .other ?_ ih
    rintro mark written inert ⟨after, same⟩
    cases inert with
    | code | echo =>
      cases same
      exact notOpen _ rfl rfl
    | close =>
      cases same
      exact notClose _ rfl rfl

theorem neutralize_replaced (text : List Char) : Replaced Inert id text (neutralize text) :=
  neutralizeFrom_replaced 0 text

/-- Characters of no marker and of no form written for one. -/
def unmarked : List Char := ['{', '\'', '\\']

/-- Making text inert keeps its braces, quotes and backslashes. -/
theorem count_neutralize {c : Char} (text : List Char) (listed : c ∈ unmarked) :
    (neutralize text).count c = text.count c := by
  have absent : c.toLower = c ∧ (∀ lower ∈ codeMarkers, c ∉ lower) ∧ ∀ form ∈ inertForms, c ∉ form := by
    simp only [unmarked, List.mem_cons, List.not_mem_nil, or_false] at listed
    rcases listed with rfl | rfl | rfl <;> decide
  apply (neutralize_replaced text).count_eq
  intro mark written inert
  have inForm := absent.2.2 written inert.written_mem
  have inMarker : c ∉ mark := by
    intro inside
    apply absent.2.1 _ inert.isMarker
    have lower := List.mem_map_of_mem (f := Char.toLower) inside
    rwa [absent.1] at lower
  rw [List.count_eq_zero.2 inForm, List.count_eq_zero.2 inMarker]

theorem count_stripSlashes {c : Char} (text : List Char) (plain : c ∉ ['\\', '0', '\x00']) :
    (stripSlashes text).count c = text.count c := by
  simp only [List.mem_cons, List.not_mem_nil, or_false, not_or] at plain
  obtain ⟨noSlash, noZero, noNull⟩ := plain
  fun_induction stripSlashes text with
  | case1 d rest ih =>
    rw [List.count_cons_of_ne (Ne.symm noSlash), List.count_cons, List.count_cons, ih]
    -- An escaped zero becomes the null character; neither is counted.
    by_cases zero : d = '0'
    · simp [zero, Ne.symm noNull, Ne.symm noZero]
    · rw [if_neg zero]
  | case2 => simp [Ne.symm noSlash]
  | case3 d rest _ _ ih => rw [List.count_cons, List.count_cons, ih]
  | case4 => rfl

/-! ## Joining blocks -/

/-- What is written where a block ends and the next one begins. -/
def Joins (part written : List Char) : Prop := part = "?><?php".toList ∧ written = " ".toList

theorem joinBlocks_replaced (body : List Char) : Replaced Joins id body (joinBlocks body) :=
  replaceAll_replaced (by decide) _ _

theorem joins_separate : Separate Joins := by
  constructor
  · rintro mark other written otherWritten ⟨rfl, -⟩ ⟨rfl, -⟩
    decide
  · rintro mark other rest written otherWritten ⟨rfl, -⟩ ⟨rfl, -⟩ -
    rfl

/-- Whether a marker between two texts is one half of a joint between blocks. -/
def AtJoint (before marker after : List Char) : Prop :=
  (marker = "?>".toList ∧ "<?php".toList <+: after) ∨
    (marker = "<?php".toList ∧ "?>".toList <:+ before)

/-- A marker that lies over the end of a joint is its second half. -/
theorem IsMarker.second_half {marker after start rest : List Char} (isMarker : IsMarker marker)
    (filled : start ≠ []) (nonempty : rest ≠ []) (split : start ++ rest = "?><?php".toList)
    (reaches : rest <+: marker ++ after) : marker = "<?php".toList ∧ start = "?>".toList := by
  have closed : ∀ rest ∈ "?><?php".toList.tail.tails, rest ≠ [] → ∀ lower ∈ codeMarkers,
      rest.map Char.toLower <+: lower ∨ lower <+: rest.map Char.toLower →
        rest = "<?php".toList ∧ lower = "<?php".toList := by decide
  have proper : rest <:+ "?><?php".toList.tail := by
    refine suffix_tail_of_ne ⟨start, split⟩ fun whole => filled ?_
    rw [whole] at split
    exact List.append_left_eq_self.1 split
  have overlap := List.prefix_or_prefix_of_prefix reaches (List.prefix_append marker after)
  obtain ⟨rfl, lower⟩ := closed rest ((List.mem_tails _ _).2 proper) nonempty _ isMarker
    (overlap.imp (·.map _) (·.map _))
  have lengths : marker.length = 5 := by simpa using congrArg List.length lower
  refine ⟨?_, List.append_cancel_right (split.trans rfl)⟩
  rcases overlap with shorter | longer
  · exact (shorter.eq_of_length lengths.symm).symm
  · exact longer.eq_of_length lengths

/-- A marker is kept unless it is one half of a joint. -/
theorem clear_joins_iff {before marker after : List Char} (isMarker : IsMarker marker) :
    Clear Joins before marker after ↔ ¬ AtJoint before marker after := by
  constructor
  · rintro clear (⟨rfl, next⟩ | ⟨rfl, previous⟩)
    · refine clear.inside _ _ ⟨rfl, rfl⟩ _ (by decide) (List.suffix_refl _) ?_
      exact (List.prefix_append_right_inj "?>".toList).2 next
    · have within := clear.ahead _ _ ⟨rfl, rfl⟩ "?>".toList (by decide) previous ⟨after, rfl⟩
      exact absurd within (by decide)
  · intro free
    constructor
    · -- A joint that begins in the marker begins with it.
      rintro _ _ ⟨rfl, rfl⟩ start filled inside begins
      by_cases whole : start = marker
      · subst whole
        obtain ⟨written, inert⟩ := isMarker_iff.1 isMarker
        cases inert with
        | code | echo => obtain ⟨_, same⟩ := begins; cases same
        | close => exact free (.inl ⟨rfl, (List.prefix_append_right_inj "?>".toList).1 begins⟩)
      · exact isMarker.tail_not_beginsIn (by decide)
          (beginsIn_of_start filled (suffix_tail_of_ne inside whole) begins)
    · -- A joint that reaches into the marker has it as its second half.
      rintro _ _ ⟨rfl, rfl⟩ start filled inside begins
      rcases List.prefix_or_prefix_of_prefix begins (List.prefix_append start _) with
        within | ⟨rest, split⟩
      · exact within
      by_cases nothing : rest = []
      · rw [← split, nothing, List.append_nil]
      · rw [← split] at begins
        obtain ⟨rfl, rfl⟩ := isMarker.second_half filled nothing split
          ((List.prefix_append_right_inj start).1 begins)
        exact absurd (.inr ⟨rfl, inside⟩) free

/-- The markers that are left are those that were no half of a joint. -/
theorem hasMarker_joinBlocks_iff (body : List Char) :
    HasMarker (joinBlocks body) ↔
      ∃ before marker after, body = before ++ (marker ++ after) ∧ IsMarker marker ∧
        ¬ AtJoint before marker after := by
  constructor
  · rintro ⟨marker, isMarker, left, right, split⟩
    have apart : ∀ mark written, Joins mark written →
        ¬ BeginsIn written marker.tail ∧ ¬ BeginsIn marker written := by
      rintro _ _ ⟨-, rfl⟩
      exact ⟨isMarker.tail_not_beginsIn (by decide), isMarker.not_beginsIn (by decide)⟩
    obtain ⟨before, stretch, after, rfl, same, -, -, clear⟩ :=
      (joinBlocks_replaced body).arises joins_separate isMarker.ne_nil
        (split.symm.trans (List.append_assoc _ _ _)) apart
    rw [List.map_id] at same
    subst same
    exact ⟨before, stretch, after, rfl, isMarker, (clear_joins_iff isMarker).1 clear⟩
  · rintro ⟨before, marker, after, rfl, isMarker, free⟩
    obtain ⟨left, right, kept, -, -⟩ :=
      (joinBlocks_replaced _).keeps rfl ((clear_joins_iff isMarker).2 free)
    rw [List.map_id] at kept
    exact ⟨marker, isMarker, left, right, by rw [kept, List.append_assoc]⟩

end Stencil.Php
