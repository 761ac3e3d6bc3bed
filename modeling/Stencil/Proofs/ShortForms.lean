import Stencil.Proofs.Occurrences
import Stencil.Proofs.PathReduction

/-! # Short forms are final

Dropping empty segments, dropping dots and cancelling names work one after the other, and
none of them makes new work for one before it.  What is left is a normal form, and the
paths that are their own short form are exactly those in normal form.

* `schemeOf` / `behindScheme` — the part of a path that is not touched, and the rest;
* `IsNormal` — segments of which none can be left out or cancelled;
* `isNormal_shortened` — the steps together end in a normal form;
* `reduceSegments_eq_self_iff` — normal forms stay as they are, and nothing else does;
* `reducePath_normalForm` — the short form of any path;
* `reducePath_sameRoute` — where a short form leads, and how it begins and ends.
-/

namespace Stencil.Template

open Stencil.Text (splitFirst? splitFirst?_append splitFirst?_eq_none splitFirst?_eq_some_iff
  splitOn joinWith joinWith_splitOn)

variable {path : List Char} {segments shorter : List (List Char)}

/-! ## Schemes -/

/-- The scheme of a path with the separator behind it; empty if the path has none. -/
def schemeOf (path : List Char) : List Char :=
  match splitFirst? "://".toList path with
  | some (scheme, _) => scheme ++ "://".toList
  | none => []

/-- The part of a path behind its scheme. -/
def behindScheme (path : List Char) : List Char :=
  match splitFirst? "://".toList path with
  | some (_, rest) => rest
  | none => path

theorem scheme_of_split {scheme rest : List Char}
    (found : splitFirst? "://".toList path = some (scheme, rest)) :
    schemeOf path = scheme ++ "://".toList ∧ behindScheme path = rest := by
  rw [schemeOf, behindScheme, found]
  exact ⟨rfl, rfl⟩

theorem scheme_of_no_split (absent : splitFirst? "://".toList path = none) :
    schemeOf path = [] ∧ behindScheme path = path := by
  rw [schemeOf, behindScheme, absent]
  exact ⟨rfl, rfl⟩

theorem schemeOf_append_behindScheme (path : List Char) :
    schemeOf path ++ behindScheme path = path := by
  cases found : splitFirst? "://".toList path with
  | none => rw [(scheme_of_no_split found).1, (scheme_of_no_split found).2, List.nil_append]
  | some parts =>
    rw [(scheme_of_split found).1, (scheme_of_split found).2]
    exact splitFirst?_append found

theorem reducePath_eq (path : List Char) :
    reducePath path = schemeOf path ++ reduceSegments (behindScheme path) := by
  unfold reducePath
  cases found : splitFirst? "://".toList path with
  | none => rw [(scheme_of_no_split found).1, (scheme_of_no_split found).2, List.nil_append]
  | some parts => rw [(scheme_of_split found).1, (scheme_of_split found).2]

/-- Where the slashes are single, no scheme is found. -/
theorem Collapsed.not_scheme (collapsed : Collapsed (splitOn '/' path)) :
    ¬ "://".toList <:+: path := by
  rintro ⟨scheme, rest, rfl⟩
  rw [splitOn_scheme] at collapsed
  obtain ⟨first, front, before⟩ :=
    List.exists_cons_of_ne_nil (Text.splitOn_ne_nil '/' (scheme ++ [':']))
  have behind := Text.splitOn_ne_nil '/' rest
  -- The separator leaves an empty segment with others on both sides.
  apply collapsed
  simp [before, List.dropLast_cons_of_ne_nil behind]

/-! ## Normal forms -/

/-- Segments in normal form: none between the first and the last one is empty or a dot, and
    none that names something stands directly before a parent step with more behind it. -/
structure IsNormal (segments : List (List Char)) : Prop where
  inner : ∀ segment ∈ segments.tail.dropLast, segment ≠ [] ∧ segment ≠ ['.']
  parents : ∀ front segment next others,
    segments = front ++ segment :: ['.', '.'] :: next :: others →
      segment = [] ∨ segment = ['.'] ∨ segment = ['.', '.']

theorem IsNormal.collapsed (normal : IsNormal segments) : Collapsed segments :=
  fun inside => (normal.inner [] inside).1 rfl

theorem not_isNamed_iff {segment : List Char} :
    isNamed segment = false ↔ segment = [] ∨ segment = ['.'] ∨ segment = ['.', '.'] := by
  simp only [isNamed, Bool.and_eq_false_iff, bne_eq_false_iff_eq]
  tauto

/-- Nothing is cancelled where no name stands before a parent step with more behind it. -/
theorem parentStep?_eq_none_iff :
    parentStep? segments = none ↔
      ∀ front segment next others,
        segments = front ++ segment :: ['.', '.'] :: next :: others → isNamed segment = false := by
  fun_induction parentStep? segments with
  | case1 segment step next others here =>
    simp only [Bool.and_eq_true, beq_iff_eq] at here
    obtain ⟨named, rfl⟩ := here
    simp only [reduceCtorEq, false_iff]
    intro unnamed
    cases named.symm.trans (unnamed [] segment next others rfl)
  | case2 segment step next others notHere ih =>
    rw [Option.map_eq_none_iff, ih]
    constructor
    · intro later front name following rest split
      cases front with
      | nil =>
        obtain ⟨rfl, tails⟩ := List.cons.inj split
        obtain ⟨rfl, -⟩ := List.cons.inj tails
        simpa using notHere
      | cons first front => exact later front name following rest (List.cons.inj split).2
    · intro all front name following rest split
      exact all (segment :: front) name following rest (congrArg (segment :: ·) split)
  | case3 segments short =>
    simp only [true_iff]
    rintro front segment next others rfl
    -- Three segments would be left to look at.
    cases front with
    | nil => exact absurd rfl (short segment _ next others)
    | cons first front =>
      cases front with
      | nil => exact absurd rfl (short first segment _ (next :: others))
      | cons second front =>
        cases front with
        | nil => exact absurd rfl (short first second segment _)
        | cons third front => exact absurd rfl (short first second third _)

/-- Cancelling goes on until there is nothing to cancel. -/
theorem parentStep?_dropParents (segments : List (List Char)) :
    parentStep? (dropParents segments) = none := by
  fun_induction dropParents segments with
  | case1 segments shorter found ih => exact ih
  | case2 segments none => exact none

/-- The steps together end in a normal form: cancelling leaves no new empty segment and no
    new dot between others. -/
theorem isNormal_shortened (path : List Char) : IsNormal (shortened path) := by
  let filled := dropInner List.isEmpty (splitOn '/' path)
  have dotless : (shortened path).Sublist (dropInner (· == ['.']) filled) := dropParents_sublist _
  have collapsed : (shortened path).Sublist filled := dotless.trans (dropInner_sublist _ _)
  constructor
  · intro segment inside
    constructor
    · rintro rfl
      exact not_unwanted_dropInner ((inner_sublist collapsed).subset inside) rfl
    · rintro rfl
      exact not_unwanted_dropInner ((inner_sublist dotless).subset inside) rfl
  · intro front segment next others split
    exact not_isNamed_iff.1
      (parentStep?_eq_none_iff.1 (parentStep?_dropParents _) front segment next others split)

/-! ## Normal forms stay as they are -/

theorem dropInner_eq_self {unwanted : List Char → Bool}
    (wanted : ∀ segment ∈ segments.tail.dropLast, unwanted segment = false) :
    dropInner unwanted segments = segments := by
  have inner (others : List (List Char))
      (wanted : ∀ segment ∈ others.dropLast, unwanted segment = false) :
      dropBeforeLast unwanted others = others := by
    fun_induction dropBeforeLast unwanted others with
    | case1 => rfl
    | case2 last => rfl
    | case3 segment others more drop ih =>
      have filled : others ≠ [] := by simpa using more
      rw [List.dropLast_cons_of_ne_nil filled] at wanted
      cases drop.symm.trans (wanted segment (.head _))
    | case4 segment others more keep ih =>
      have filled : others ≠ [] := by simpa using more
      rw [List.dropLast_cons_of_ne_nil filled] at wanted
      rw [ih fun other inside => wanted other (.tail _ inside)]
  cases segments with
  | nil => rfl
  | cons first others => exact congrArg (first :: ·) (inner others wanted)

theorem dropParents_eq_self (settled : parentStep? segments = none) :
    dropParents segments = segments := by
  rw [dropParents]
  split
  · rename_i found
    cases settled.symm.trans found
  · rfl

theorem IsNormal.shortened_eq (normal : IsNormal (splitOn '/' path)) :
    shortened path = splitOn '/' path := by
  have filled : dropInner List.isEmpty (splitOn '/' path) = splitOn '/' path :=
    dropInner_eq_self fun segment inside => by simpa using (normal.inner segment inside).1
  have dotless : dropInner (· == ['.']) (splitOn '/' path) = splitOn '/' path :=
    dropInner_eq_self fun segment inside => by simpa using (normal.inner segment inside).2
  have settled : parentStep? (splitOn '/' path) = none :=
    parentStep?_eq_none_iff.2 fun front segment next others split =>
      not_isNamed_iff.2 (normal.parents front segment next others split)
  rw [shortened, filled, dotless, dropParents_eq_self settled]

/-- A path without a scheme is its own short form exactly if it is in normal form. -/
theorem reduceSegments_eq_self_iff :
    reduceSegments path = path ↔ IsNormal (splitOn '/' path) := by
  constructor
  · intro same
    have segments := splitOn_reduceSegments path
    rw [same] at segments
    rw [segments]
    exact isNormal_shortened path
  · intro normal
    calc reduceSegments path
        = joinWith '/' (shortened path) := rfl
      _ = joinWith '/' (splitOn '/' path) := by rw [normal.shortened_eq]
      _ = path := joinWith_splitOn '/' path

/-! ## Short forms -/

/-- A short form has the scheme of the path, and behind it the short form of what stood
    there. -/
theorem scheme_reducePath (path : List Char) :
    schemeOf (reducePath path) = schemeOf path ∧
      behindScheme (reducePath path) = reduceSegments (behindScheme path) := by
  have filled : "://".toList ≠ [] := by decide
  rw [reducePath_eq path]
  cases found : splitFirst? "://".toList path with
  | some parts =>
    obtain ⟨scheme, rest⟩ := parts
    obtain ⟨schemed, behind⟩ := scheme_of_split found
    -- The separator overlaps no earlier one, whatever stands behind it.
    have apart := ((splitFirst?_eq_some_iff filled).1 found).2
    rw [schemed, behind]
    exact scheme_of_split ((splitFirst?_eq_some_iff filled).2 ⟨by simp, apart⟩)
  | none =>
    obtain ⟨schemed, behind⟩ := scheme_of_no_split found
    have collapsed : Collapsed (splitOn '/' (reduceSegments path)) := by
      rw [splitOn_reduceSegments]
      exact (isNormal_shortened path).collapsed
    rw [schemed, behind, List.nil_append]
    exact scheme_of_no_split (splitFirst?_eq_none collapsed.not_scheme)

/-- The short form of a path is its own short form.  It keeps the scheme of the path, and the
    segments behind it are in normal form. -/
theorem reducePath_normalForm (path : List Char) :
    reducePath (reducePath path) = reducePath path ∧
      schemeOf (reducePath path) = schemeOf path ∧
      IsNormal (splitOn '/' (behindScheme (reducePath path))) := by
  obtain ⟨scheme, behind⟩ := scheme_reducePath path
  have normal : IsNormal (splitOn '/' (behindScheme (reducePath path))) := by
    rw [behind, splitOn_reduceSegments]
    exact isNormal_shortened _
  refine ⟨?_, scheme, normal⟩
  rw [reducePath_eq (reducePath path), reduceSegments_eq_self_iff.2 normal,
    schemeOf_append_behindScheme]

example : reducePath "s://a/./b//..//../../c/..".toList = "s://../c/..".toList := by
  decide +kernel

/-- The short form of a path leads to the same place, it begins with a slash if the path
    does, and it has the same last segment. -/
theorem reducePath_sameRoute (path : List Char) :
    route (reducePath path) = route path ∧
      ((reducePath path).head? = some '/' ↔ path.head? = some '/') ∧
      (splitOn '/' (reducePath path)).getLast? = (splitOn '/' path).getLast? := by
  have alike := tantamount_reducePath path
  have same := samePlace_reducePath (.inl rfl) List.not_mem_nil path
  simp only [List.nil_append, List.append_nil] at same
  exact ⟨same.routes, head?_reducePath, alike.last.symm⟩

example : route "/a/./../..//b/".toList = ["..".toList, ['b']] := by decide

end Stencil.Template
