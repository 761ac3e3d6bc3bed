import Stencil.Proofs.Locations
import Stencil.Template.Path

/-! # Short forms lead to the same place

A path is followed by its text alone: a segment that is empty or a dot stays, two dots
cancel the segment before them.  The short form of a path leads to the same place, from
wherever the path is followed, and it begins and ends like the path.

* `route` — the segments of a path that count;
* `SamePlace` — paths with the same route from the same start;
* `Tantamount` — segments with the same last one, that are followed alike up to there;
* `tantamount_reducePath` and `head?_reducePath` — what a short form keeps;
* `SamePlace.destination` — such paths lead to one location of a store.
-/

namespace Stencil.Template

open Stencil.Text (joinWith splitOn)

variable {path other : List Char} {segments shorter rest : List (List Char)}

/-! ## Following segments -/

/-- The segments that count after one more, the innermost first. -/
def enter (way : List (List Char)) (segment : List Char) : List (List Char) :=
  if segment = [] ∨ segment = ['.'] then way
  else if segment = ['.', '.'] then
    match way with
    | [] => [segment]
    | parent :: above => if parent = ['.', '.'] then segment :: way else above
  else segment :: way

/-- The segments of a path that count, the outermost first. -/
def route (path : List Char) : List (List Char) := ((splitOn '/' path).foldl enter []).reverse

/-- Paths that lead to the same place, as far as their text tells. -/
structure SamePlace (path other : List Char) : Prop where
  rooted : path.head? = some '/' ↔ other.head? = some '/'
  routes : route path = route other

@[simp] theorem enter_empty (way : List (List Char)) : enter way [] = way := by simp [enter]

@[simp] theorem enter_dot (way : List (List Char)) : enter way ['.'] = way := by simp [enter]

/-- A name and a parent step behind it cancel each other. -/
theorem enter_named_parent {name : List Char} (named : isNamed name = true)
    (way : List (List Char)) : enter (enter way name) ['.', '.'] = way := by
  simp only [isNamed, Bool.and_eq_true, bne_iff_ne, ne_eq] at named
  obtain ⟨⟨filled, other⟩, noDot⟩ := named
  simp [enter, filled, other, noDot]

/-! ## Segments that are followed alike -/

/-- Segments that end in the same one and lead to it alike, from wherever they are followed. -/
structure Tantamount (segments shorter : List (List Char)) : Prop where
  last : segments.getLast? = shorter.getLast?
  front : ∀ way, segments.dropLast.foldl enter way = shorter.dropLast.foldl enter way

namespace Tantamount

theorem refl (segments : List (List Char)) : Tantamount segments segments := ⟨rfl, fun _ => rfl⟩

theorem trans (first : Tantamount segments shorter) (second : Tantamount shorter rest) :
    Tantamount segments rest :=
  ⟨first.last.trans second.last, fun way => (first.front way).trans (second.front way)⟩

theorem ne_nil (alike : Tantamount segments shorter) : segments ≠ [] ↔ shorter ≠ [] := by
  rw [← List.getLast?_isSome, ← List.getLast?_isSome, alike.last]

theorem cons (segment : List Char) (alike : Tantamount segments shorter) :
    Tantamount (segment :: segments) (segment :: shorter) := by
  by_cases filled : segments = []
  · have : shorter = [] := by simpa [filled] using alike.ne_nil
    subst filled this
    exact refl _
  · constructor
    · simp only [List.getLast?_cons, alike.last]
    · intro way
      rw [List.dropLast_cons_of_ne_nil filled, List.dropLast_cons_of_ne_nil (alike.ne_nil.1 filled)]
      exact alike.front (enter way segment)

theorem append (front : List (List Char)) (alike : Tantamount segments shorter) :
    Tantamount (front ++ segments) (front ++ shorter) := by
  induction front with
  | nil => exact alike
  | cons segment front ih => exact ih.cons segment

end Tantamount

/-- Segments that lead nowhere else can be left out in front. -/
theorem tantamount_skip {segment : List Char} (filled : segments ≠ [])
    (stays : ∀ way, enter way segment = way) : Tantamount (segment :: segments) segments := by
  constructor
  · rw [List.getLast?_cons_of_ne_nil filled]
  · intro way
    rw [List.dropLast_cons_of_ne_nil filled, List.foldl_cons, stays]

theorem tantamount_dropBeforeLast {unwanted : List Char → Bool}
    (stays : ∀ segment, unwanted segment = true → ∀ way, enter way segment = way)
    (segments : List (List Char)) : Tantamount segments (dropBeforeLast unwanted segments) := by
  fun_induction dropBeforeLast unwanted segments with
  | case1 => exact .refl _
  | case2 last => exact .refl _
  | case3 segment others more drop ih =>
    exact (tantamount_skip (by simpa using more) (stays _ drop)).trans ih
  | case4 segment others more keep ih => exact ih.cons segment

theorem tantamount_dropInner {unwanted : List Char → Bool}
    (stays : ∀ segment, unwanted segment = true → ∀ way, enter way segment = way)
    (segments : List (List Char)) : Tantamount segments (dropInner unwanted segments) := by
  cases segments with
  | nil => exact .refl _
  | cons first others => exact (tantamount_dropBeforeLast stays others).cons first

/-- A cancellation takes a name and the parent step behind it out of the segments. -/
theorem parentStep?_spec (found : parentStep? segments = some shorter) :
    ∃ front name next others, isNamed name = true ∧
      segments = front ++ name :: ['.', '.'] :: next :: others ∧
      shorter = front ++ next :: others := by
  fun_induction parentStep? segments generalizing shorter with
  | case1 name step next others here =>
    simp only [Option.some.injEq] at found
    simp only [Bool.and_eq_true, beq_iff_eq] at here
    obtain ⟨named, rfl⟩ := here
    exact ⟨[], name, next, others, named, rfl, found.symm⟩
  | case2 segment step next others _ ih =>
    simp only [Option.map_eq_some_iff] at found
    obtain ⟨inner, deeper, rfl⟩ := found
    obtain ⟨front, name, last, rest, named, whole, rfl⟩ := ih deeper
    exact ⟨segment :: front, name, last, rest, named, by rw [whole]; rfl, rfl⟩
  | case3 => simp at found

theorem tantamount_cancel {name next : List Char} (named : isNamed name = true)
    (others : List (List Char)) :
    Tantamount (name :: ['.', '.'] :: next :: others) (next :: others) := by
  constructor
  · simp
  · intro way
    simp only [List.dropLast_cons_cons, List.foldl_cons, enter_named_parent named]

theorem tantamount_parentStep? (found : parentStep? segments = some shorter) :
    Tantamount segments shorter := by
  obtain ⟨front, name, next, others, named, rfl, rfl⟩ := parentStep?_spec found
  exact (tantamount_cancel named others).append front

theorem tantamount_dropParents (segments : List (List Char)) :
    Tantamount segments (dropParents segments) := by
  fun_induction dropParents segments with
  | case1 segments shorter found ih => exact (tantamount_parentStep? found).trans ih
  | case2 segments => exact .refl segments

/-! ## The segments of a short form -/

theorem dropBeforeLast_sublist (unwanted : List Char → Bool) (segments : List (List Char)) :
    (dropBeforeLast unwanted segments).Sublist segments := by
  fun_induction dropBeforeLast unwanted segments with
  | case1 => exact .refl _
  | case2 last => exact .refl _
  | case3 segment others _ _ ih => exact ih.cons segment
  | case4 segment others _ _ ih => exact ih.cons_cons segment

theorem dropInner_sublist (unwanted : List Char → Bool) (segments : List (List Char)) :
    (dropInner unwanted segments).Sublist segments := by
  cases segments with
  | nil => exact .refl _
  | cons first others => exact (dropBeforeLast_sublist unwanted others).cons_cons first

theorem parentStep?_sublist (found : parentStep? segments = some shorter) :
    shorter.Sublist segments := by
  obtain ⟨front, name, next, others, -, rfl, rfl⟩ := parentStep?_spec found
  exact (List.Sublist.refl front).append (.cons name (.cons _ (.refl _)))

theorem dropParents_sublist (segments : List (List Char)) :
    (dropParents segments).Sublist segments := by
  fun_induction dropParents segments with
  | case1 segments shorter found ih => exact ih.trans (parentStep?_sublist found)
  | case2 segments => exact .refl _

theorem splitOn_eq (separator : Char) (text : List Char) :
    splitOn separator text = text.splitOn separator := by
  induction text with
  | nil => rfl
  | cons c text ih =>
    rw [List.splitOn_cons_eq_if_modifyHead, splitOn, ih]
    simp only [beq_iff_eq]
    split
    · rfl
    · cases pieces : text.splitOn separator with
      | nil => exact absurd pieces (List.splitOn_ne_nil separator text)
      | cons piece pieces => rfl

theorem not_mem_of_mem_splitOn {separator : Char} {text piece : List Char}
    (listed : piece ∈ splitOn separator text) : separator ∉ piece := by
  induction text generalizing piece with
  | nil => simp_all [splitOn]
  | cons c text ih =>
    simp only [splitOn] at listed
    split at listed
    · rcases List.mem_cons.1 listed with rfl | later
      · simp
      · exact ih later
    · rename_i other
      cases pieces : splitOn separator text with
      | nil => exact absurd pieces (Text.splitOn_ne_nil separator text)
      | cons first pieces =>
        simp only [pieces] at listed ih
        rcases List.mem_cons.1 listed with rfl | later
        · simpa [Ne.symm other] using ih (List.mem_cons_self ..)
        · exact ih (List.mem_cons_of_mem _ later)

/-- The segments that a path is reduced to. -/
def shortened (path : List Char) : List (List Char) :=
  dropParents (dropInner (· == ['.']) (dropInner List.isEmpty (splitOn '/' path)))

theorem tantamount_shortened (path : List Char) :
    Tantamount (splitOn '/' path) (shortened path) := by
  have empties : Tantamount (splitOn '/' path) (dropInner List.isEmpty (splitOn '/' path)) :=
    tantamount_dropInner (fun segment drop way => by simp_all) _
  have dots (segments : List (List Char)) :
      Tantamount segments (dropInner (· == ['.']) segments) :=
    tantamount_dropInner (fun segment drop way => by simp_all) segments
  exact (empties.trans (dots _)).trans (tantamount_dropParents _)

theorem splitOn_reduceSegments (path : List Char) :
    splitOn '/' (reduceSegments path) = shortened path := by
  have parts : (shortened path).Sublist (splitOn '/' path) :=
    ((dropParents_sublist _).trans (dropInner_sublist _ _)).trans (dropInner_sublist _ _)
  have filled : shortened path ≠ [] :=
    (tantamount_shortened path).ne_nil.1 (Text.splitOn_ne_nil '/' path)
  rw [splitOn_eq]
  exact List.splitOn_intercalate '/'
    (fun part listed => not_mem_of_mem_splitOn (parts.subset listed)) filled

/-- A scheme ends in slashes, so the segments in front and behind are whole ones. -/
theorem splitOn_scheme (scheme text : List Char) :
    splitOn '/' (scheme ++ "://".toList ++ text) =
      splitOn '/' (scheme ++ [':']) ++ [[]] ++ splitOn '/' text := by
  simpa [splitOn] using splitOn_append (scheme ++ [':']) ('/' :: text)

/-- A short form is followed like the path, and it has the same last segment. -/
theorem tantamount_reducePath (path : List Char) :
    Tantamount (splitOn '/' path) (splitOn '/' (reducePath path)) := by
  unfold reducePath
  split
  · rename_i scheme rest found
    rw [← Text.splitFirst?_append found, splitOn_scheme, splitOn_scheme, splitOn_reduceSegments]
    exact (tantamount_shortened rest).append _
  · rw [splitOn_reduceSegments]
    exact tantamount_shortened path

/-! ## Paths from the top -/

/-- Segments of a path that begins with a slash. -/
def Rooted : List (List Char) → Prop
  | [] :: _ :: _ => True
  | _ => False

theorem head?_iff_rooted : path.head? = some '/' ↔ Rooted (splitOn '/' path) := by
  cases path with
  | nil => simp [splitOn, Rooted]
  | cons c path =>
    simp only [splitOn, List.head?_cons, Option.some.injEq]
    cases pieces : splitOn '/' path with
    | nil => exact absurd pieces (Text.splitOn_ne_nil '/' path)
    | cons piece pieces => by_cases slash : c = '/' <;> simp [slash, Rooted]

theorem rooted_cons {first : List Char} (alike : Tantamount segments shorter) :
    Rooted (first :: shorter) ↔ Rooted (first :: segments) := by
  have filled := alike.ne_nil
  cases first with
  | nil => cases segments <;> cases shorter <;> simp_all [Rooted]
  | cons => simp [Rooted]

theorem rooted_dropInner {unwanted : List Char → Bool}
    (stays : ∀ segment, unwanted segment = true → ∀ way, enter way segment = way) :
    Rooted (dropInner unwanted segments) ↔ Rooted segments := by
  cases segments with
  | nil => exact Iff.rfl
  | cons first others => exact rooted_cons (tantamount_dropBeforeLast stays others)

/-- No segment between the first and the last one is empty. -/
def Collapsed (segments : List (List Char)) : Prop := [] ∉ segments.tail.dropLast

/-- What stands between the first and the last segment stood there before. -/
theorem inner_sublist (fewer : shorter.Sublist segments) :
    shorter.tail.dropLast.Sublist segments.tail.dropLast := by
  rw [← List.reverse_sublist, ← List.tail_reverse, ← List.tail_reverse]
  exact fewer.tail.reverse.tail

theorem Collapsed.sublist (collapsed : Collapsed segments) (fewer : shorter.Sublist segments) :
    Collapsed shorter :=
  fun listed => collapsed ((inner_sublist fewer).subset listed)

/-- No unwanted segment stays between the first and the last one. -/
theorem not_unwanted_dropInner {unwanted : List Char → Bool} {segment : List Char}
    (inside : segment ∈ (dropInner unwanted segments).tail.dropLast) :
    ¬ unwanted segment = true := by
  have inner (others : List (List Char)) :
      ∀ segment ∈ (dropBeforeLast unwanted others).dropLast, ¬ unwanted segment = true := by
    fun_induction dropBeforeLast unwanted others with
    | case1 => simp
    | case2 last => simp
    | case3 first others _ _ ih => exact ih
    | case4 first others _ keep ih =>
      cases rest : dropBeforeLast unwanted others <;> simp_all
  cases segments with
  | nil => simp [dropInner] at inside
  | cons first others => exact inner others segment inside

theorem collapsed_dropInner (segments : List (List Char)) :
    Collapsed (dropInner List.isEmpty segments) :=
  fun inside => not_unwanted_dropInner inside rfl

theorem rooted_parentStep? (collapsed : Collapsed segments)
    (found : parentStep? segments = some shorter) : Rooted shorter ↔ Rooted segments := by
  obtain ⟨front, name, next, others, named, rfl, rfl⟩ := parentStep?_spec found
  cases front with
  | nil =>
    -- The name at the front goes, and what comes in its place is empty at the end only.
    have filled : others ≠ [] → next ≠ [] := by
      rintro more rfl
      exact collapsed (by simp [List.dropLast_cons_of_ne_nil more])
    cases name with
    | nil => simp [isNamed] at named
    | cons => cases next <;> cases others <;> simp_all [Rooted]
  | cons first front => exact rooted_cons ((tantamount_cancel named others).append front)

theorem rooted_dropParents (collapsed : Collapsed segments) :
    Rooted (dropParents segments) ↔ Rooted segments := by
  fun_induction dropParents segments with
  | case1 segments shorter found ih =>
    rw [ih (collapsed.sublist (parentStep?_sublist found)), rooted_parentStep? collapsed found]
  | case2 segments => rfl

/-- A short form begins with a slash if the path does. -/
theorem head?_reducePath : (reducePath path).head? = some '/' ↔ path.head? = some '/' := by
  unfold reducePath
  split
  · rename_i scheme rest found
    rw [← Text.splitFirst?_append found]
    cases scheme <;> simp
  · have collapsed :=
      (collapsed_dropInner (splitOn '/' path)).sublist (dropInner_sublist (· == ['.']) _)
    rw [head?_iff_rooted, head?_iff_rooted, splitOn_reduceSegments, shortened,
      rooted_dropParents collapsed, rooted_dropInner (by simp_all), rooted_dropInner (by simp_all)]

/-! ## Paths with more around them -/

theorem splitOn_append_of_not_mem {tail : List Char} (plain : '/' ∉ tail) (path : List Char) :
    splitOn '/' (path ++ tail) = (splitOn '/' path).dropLast ++
      [(splitOn '/' path).getLast?.getD [] ++ tail] := by
  induction path with
  | nil => simpa [splitOn] using splitOn_of_not_mem plain
  | cons c path ih =>
    simp only [List.cons_append, splitOn, ih]
    cases pieces : splitOn '/' path with
    | nil => exact absurd pieces (Text.splitOn_ne_nil '/' path)
    | cons piece others => by_cases slash : c = '/' <;> cases others <;> simp [slash]

/-- A path leads to the same place in its short form, also in a directory and with more
    behind it. -/
theorem samePlace_reducePath {front tail : List Char}
    (opens : front = [] ∨ front.getLast? = some '/') (plain : '/' ∉ tail) (path : List Char) :
    SamePlace (front ++ reducePath path ++ tail) (front ++ path ++ tail) := by
  have alike :
      Tantamount (splitOn '/' (front ++ path)) (splitOn '/' (front ++ reducePath path)) := by
    rcases opens with rfl | ends
    · exact tantamount_reducePath path
    · obtain ⟨parent, rfl⟩ := List.getLast?_eq_some_iff.1 ends
      simp only [List.append_assoc, List.singleton_append, splitOn_append]
      exact (tantamount_reducePath path).append _
  have unslashed : tail.head? ≠ some '/' := fun first => plain (List.mem_of_head? first)
  have rooted (written : List Char) : (front ++ written ++ tail).head? = some '/' ↔
      front.head? = some '/' ∨ front = [] ∧ written.head? = some '/' := by
    cases front <;> cases written <;> simp [unslashed]
  constructor
  · rw [rooted, rooted, head?_reducePath]
  · unfold route
    rw [splitOn_append_of_not_mem plain, splitOn_append_of_not_mem plain, alike.last]
    simp only [List.foldl_append, alike.front]

/-! ## Places of a store -/

/-- Segments that all count. -/
def Counted (way : List (List Char)) : Prop := ∀ segment ∈ way, segment ≠ [] ∧ segment ≠ ['.']

theorem Counted.enter {way : List (List Char)} (counted : Counted way) (segment : List Char) :
    Counted (enter way segment) := by
  unfold Template.enter
  split
  · exact counted
  · rename_i counts
    rw [not_or] at counts
    have more : Counted (segment :: way) := by
      intro other listed
      rcases List.mem_cons.1 listed with rfl | listed
      · exact counts
      · exact counted other listed
    split
    · cases way with
      | nil => exact more
      | cons parent above =>
        dsimp only
        split
        · exact more
        · exact fun other listed => counted other (List.mem_cons_of_mem _ listed)
    · exact more

theorem destinationFrom_enter {way : List (List Char)} (counted : Counted way)
    (location : Location) (segment : List Char) :
    destinationFrom location (enter way segment).reverse =
      destinationFrom location (way.reverse ++ [segment]) := by
  by_cases stays : segment = [] ∨ segment = ['.']
  · rw [destinationFrom_append]
    rcases stays with rfl | rfl <;> simp [destinationFrom]
  · by_cases up : segment = ['.', '.']
    · -- The step leaves the parent, unless that is a step out of the location itself.
      subst up
      cases way with
      | nil => rfl
      | cons parent above =>
        by_cases again : parent = ['.', '.']
        · simp [enter, again]
        · have counts := counted parent (List.mem_cons_self ..)
          simp [enter, again, destinationFrom_append, destinationFrom, counts.1, counts.2]
    · simp [enter, not_or.1 stays, up]

theorem destinationFrom_foldl_enter {way : List (List Char)} (counted : Counted way)
    (location : Location) (segments : List (List Char)) :
    destinationFrom location (segments.foldl enter way).reverse =
      destinationFrom location (way.reverse ++ segments) := by
  induction segments generalizing way with
  | nil => simp
  | cons segment segments ih =>
    rw [List.foldl_cons, ih (counted.enter segment), destinationFrom_append,
      destinationFrom_enter counted, ← destinationFrom_append]
    simp

/-- Paths to the same place lead to one location of every store. -/
theorem SamePlace.destination_eq (same : SamePlace path other) (here : Location) :
    destination here path = destination here other := by
  have counted : Counted [] := by simp [Counted]
  have followed (location : Location) (written : List Char) :
      destinationFrom location (splitOn '/' written) = destinationFrom location (route written) :=
    (destinationFrom_foldl_enter counted location _).symm
  rw [destination, destination, followed, followed, same.routes]
  simp only [startOf, same.rooted]

end Stencil.Template
