import Stencil.Proofs.Octets
import Stencil.Template.Path

/-! # Reducing paths without a trap

A scheme is cut off behind its separator, and parent steps are looked for among the
runs of three segments.  What is found gives the range of segments that is taken
out.

* `windows` / `position?` / `drain` — runs of a list, searched and taken out;
* `scanParents` — names and parent steps cancelled by their indices;
* `scanReducePath_eq` — a path is reduced without a trap.
-/

namespace Stencil.Template

open Stencil.Text

/-! ## Ranges of lists -/

section Ranges

variable {α : Type}

/-- The runs of `size` neighbours in a list. -/
def windows (size : Nat) : List α → List (List α)
  | [] => []
  | first :: rest =>
    if size ≤ (first :: rest).length then (first :: rest).take size :: windows size rest else []

/-- The index of the first item that is found to hold. -/
def position? (holds : α → Except Trap Bool) : List α → Except Trap (Option Nat)
  | [] => .ok none
  | first :: rest => do
    if ← holds first then return some 0
    else
      let later ← position? holds rest
      return later.map (· + 1)

/-- A list without the items of a range. -/
def drain (start stop : Nat) (items : List α) : Except Trap (List α) :=
  if stop < start then .error .reversed
  else if items.length < stop then .error .outside
  else .ok (items.take start ++ items.drop stop)

theorem length_drain {start stop : Nat} {items left : List α} (cut : drain start stop items = .ok left) :
    left.length + (stop - start) = items.length := by
  unfold drain at cut
  split at cut
  · cases cut
  · split at cut
    · cases cut
    · cases cut
      rw [List.length_append, List.length_take, List.length_drop]
      omega

theorem drain_cons {start stop : Nat} {first : α} {items left : List α}
    (cut : drain start stop items = .ok left) :
    drain (start + 1) (stop + 1) (first :: items) = .ok (first :: left) := by
  unfold drain at cut ⊢
  split at cut
  · cases cut
  · split at cut
    · cases cut
    · cases cut
      rw [if_neg (by omega), if_neg (by simp only [List.length_cons]; omega)]
      rfl

end Ranges

/-! ## Parent steps -/

def isParentStep (window : List (List Char)) : Except Trap Bool := do
  let segment ← item window 0
  let step ← item window 1
  return isNamed segment && step == ['.', '.']

def scanParents (segments : List (List Char)) : Except Trap (List (List Char)) :=
  match position? isParentStep (windows 3 segments) with
  | .error trap => .error trap
  | .ok none => .ok segments
  | .ok (some place) =>
    match _cut : drain place (place + 2) segments with
    | .error trap => .error trap
    | .ok shorter => scanParents shorter
termination_by segments.length
decreasing_by
  have := length_drain _cut
  omega

theorem position?_isParentStep (segments : List (List Char)) :
    match parentStep? segments with
    | none => position? isParentStep (windows 3 segments) = .ok none
    | some shorter => ∃ place, position? isParentStep (windows 3 segments) = .ok (some place) ∧
        drain place (place + 2) segments = .ok shorter := by
  fun_induction parentStep? segments with
  | case1 segment step next others cancels =>
    exact ⟨0, by simp [windows, position?, isParentStep, item, cancels], by simp [drain]⟩
  | case2 segment step next others other ih =>
    have first : position? isParentStep (windows 3 (segment :: step :: next :: others)) = (do
        let later ← position? isParentStep (windows 3 (step :: next :: others))
        return later.map (· + 1)) := by
      rw [windows, if_pos (by simp), position?]
      simp [isParentStep, item, other]
    rw [first]
    cases found : parentStep? (step :: next :: others) with
    | none =>
      rw [found] at ih
      simp only [ih, ok_bind]
      rfl
    | some shorter =>
      rw [found] at ih
      obtain ⟨place, later, cut⟩ := ih
      exact ⟨place + 1, by simp [later], drain_cons cut⟩
  | case3 segments short =>
    rcases segments with _ | ⟨segment, _ | ⟨step, _ | ⟨next, others⟩⟩⟩
    · rfl
    · rfl
    · rfl
    · exact absurd rfl (short segment step next others)

theorem scanParents_eq (segments : List (List Char)) :
    scanParents segments = .ok (dropParents segments) := by
  fun_induction dropParents segments with
  | case1 segments shorter found ih =>
    have step := position?_isParentStep segments
    rw [found] at step
    obtain ⟨place, position, cut⟩ := step
    rw [scanParents, position]
    simp only
    split <;> simp_all
  | case2 segments none =>
    have step := position?_isParentStep segments
    rw [none] at step
    rw [scanParents, step]

/-! ## Whole paths -/

def scanReducePath (path : List Char) : Except Trap (List Char) := do
  let separator := "://".toList
  let (scheme, rest) ← match find? separator path with
    | some place => cutAt (place + byteLength separator) path
    | none => .ok ([], path)
  let segments := dropInner (· == ['.']) (dropInner List.isEmpty (splitOn '/' rest))
  let reduced ← scanParents segments
  return scheme ++ joinWith '/' reduced

theorem scanReducePath_eq (path : List Char) : scanReducePath path = .ok (reducePath path) := by
  unfold scanReducePath reducePath find?
  generalize "://".toList = separator
  cases found : splitFirst? separator path with
  | none => simp [found, scanParents_eq, reduceSegments]
  | some parts =>
    obtain ⟨scheme, rest⟩ := parts
    have cut : cutAt (byteLength scheme + byteLength separator) path =
        .ok (scheme ++ separator, rest) := by
      rw [← splitFirst?_append found, ← byteLength_append]
      exact cutAt_append _ _
    simp [found, cut, scanParents_eq, reduceSegments]

end Stencil.Template
