import Stencil.Text.Search

/-! # Template paths

Paths of included templates are brought into a short form without looking at
any file: no empty or `.` segment stays between the first and the last one, and
no segment name stays before a `..` that a slash follows.

* `dropInner` — removes segments except at both ends;
* `parentStep?` — cancels the leftmost name that a parent step follows;
* `reducePath` — the short form, with a scheme in front left as it is.
-/

namespace Stencil.Template

open Stencil.Text

/-- Removes unwanted segments unless they stand last. -/
def dropBeforeLast (unwanted : List Char → Bool) : List (List Char) → List (List Char)
  | [] => []
  | [last] => [last]
  | segment :: others =>
    if unwanted segment then dropBeforeLast unwanted others
    else segment :: dropBeforeLast unwanted others

/-- Removes unwanted segments between the first and the last one. -/
def dropInner (unwanted : List Char → Bool) : List (List Char) → List (List Char)
  | [] => []
  | first :: others => first :: dropBeforeLast unwanted others

/-- Whether a segment names something, as opposed to being empty or a step. -/
def isNamed (segment : List Char) : Bool :=
  segment != [] && segment != ['.', '.'] && segment != ['.']

/-- Cancels the leftmost name that a parent step follows, when the path goes on
    behind the step. -/
def parentStep? : List (List Char) → Option (List (List Char))
  | segment :: step :: next :: others =>
    if isNamed segment && step == ['.', '.'] then some (next :: others)
    else (parentStep? (step :: next :: others)).map (segment :: ·)
  | _ => none

theorem length_parentStep? {segments shorter : List (List Char)}
    (found : parentStep? segments = some shorter) : shorter.length < segments.length := by
  fun_induction parentStep? segments generalizing shorter with
  | case1 =>
    simp only [Option.some.injEq] at found
    subst found
    simp only [List.length_cons]
    omega
  | case2 segment step next others _ ih =>
    simp only [Option.map_eq_some_iff] at found
    obtain ⟨inner, deeper, rfl⟩ := found
    have := ih deeper
    simp only [List.length_cons] at this ⊢
    omega
  | case3 => simp at found

/-- Cancels names and parent steps until none is left. -/
def dropParents (segments : List (List Char)) : List (List Char) :=
  match _found : parentStep? segments with
  | some shorter => dropParents shorter
  | none => segments
termination_by segments.length
decreasing_by exact length_parentStep? _found

/-- The short form of a path without a scheme. -/
def reduceSegments (path : List Char) : List Char :=
  let segments := dropInner List.isEmpty (splitOn '/' path)
  joinWith '/' (dropParents (dropInner (· == ['.']) segments))

/-- The short form of a path.  A scheme and its separator stay as they are. -/
def reducePath (path : List Char) : List Char :=
  match splitFirst? "://".toList path with
  | some (scheme, rest) => scheme ++ "://".toList ++ reduceSegments rest
  | none => reduceSegments path

end Stencil.Template
