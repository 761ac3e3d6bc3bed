import Stencil.Pattern.Basic

/-! # Searching with patterns

A search follows all ways to match side by side, in order of preference.  A way
is a `Thread`: what is left to match and the group bounds found so far.  Two
threads with the same work left would go on alike, so only the preferred one is
kept, and the search needs one pass over the text.

* `advance` — what a thread does before it reads its next character;
* `settle` — runs all threads up to their next character, in order;
* `Pattern.find?` — the leftmost preferred match;
* `Pattern.findAll` — all matches of a text, one after another.
-/

namespace Stencil.Pattern

/-- A piece of work left to a thread. -/
inductive Task where
  | expect (regex : Regex)
  /-- Another round of a repetition, or its end. -/
  | again (body : Regex) (greedy : Bool)
  /-- The end of a group. -/
  | close (index : Nat)
  deriving DecidableEq, Repr

/-- Bounds of groups, latest first: the number of the bound and its position.
    Group `n` starts at bound `2 * n` and ends at bound `2 * n + 1`. -/
abbrev Bounds := List (Nat × Nat)

/-- One way to match. -/
structure Thread where
  tasks : List Task
  bounds : Bounds
  deriving Repr

/-- What a thread does next without reading a character. -/
inductive Move where
  /-- It has matched everything. -/
  | accept
  /-- It needs a character of the set and then goes on with `rest`. -/
  | read (chars : CharSet) (rest : List Task)
  /-- It goes on in each of these ways, in order of preference. -/
  | fork (threads : List Thread)

/-- The place between two characters of the text. -/
structure Place where
  previous : Option Char
  next : Option Char
  offset : Nat

/-- Two ways to go on, the first one preferred unless the choice is lazy. -/
def prefer (greedy : Bool) (more less : Thread) : Move :=
  .fork (if greedy then [more, less] else [less, more])

/-- The next move of a thread. -/
def advance (place : Place) (thread : Thread) : Move :=
  let goOn (tasks : List Task) : Thread := { thread with tasks }
  match thread.tasks with
  | [] => .accept
  | .close index :: rest =>
    .fork [⟨rest, (2 * index + 1, place.offset) :: thread.bounds⟩]
  | .again body greedy :: rest =>
    prefer greedy (goOn (.expect body :: .again body greedy :: rest)) (goOn rest)
  | .expect regex :: rest =>
    match regex with
    | .empty => .fork [goOn rest]
    | .set chars => .read chars rest
    | .anchor anchor =>
      .fork (if anchor.holds place.previous place.next then [goOn rest] else [])
    | .seq first second => .fork [goOn (.expect first :: .expect second :: rest)]
    | .alt first second => .fork [goOn (.expect first :: rest), goOn (.expect second :: rest)]
    | .group index body =>
      .fork [⟨.expect body :: .close index :: rest, (2 * index, place.offset) :: thread.bounds⟩]
    | .repeated _ 0 (some 0) _ => .fork [goOn rest]
    | .repeated body 0 (some (max + 1)) greedy =>
      prefer greedy (goOn (.expect body :: .expect (.repeated body 0 (some max) greedy) :: rest))
        (goOn rest)
    | .repeated body 0 none greedy =>
      prefer greedy (goOn (.expect body :: .again body greedy :: rest)) (goOn rest)
    | .repeated body 1 none greedy => .fork [goOn (.expect body :: .again body greedy :: rest)]
    | .repeated body (min + 1) max greedy =>
      .fork [goOn (.expect body ::
        .expect (.repeated body min (max.map (· - 1)) greedy) :: rest)]

/-- A thread that waits for a character. -/
structure Waiting where
  chars : CharSet
  tasks : List Task
  bounds : Bounds

/-- Runs threads up to their next character, in order of preference.  A thread
    whose work was `seen` before is dropped, and so is every thread after one
    that accepts.  Each round handles one thread; a thread forks in two at most,
    so `rounds` need not exceed twice the number of different works. -/
def settle (place : Place) : (rounds : Nat) → List Thread → (seen : List (List Task)) →
    List Waiting × Option Bounds
  | 0, _, _ => ([], none)
  | _, [], _ => ([], none)
  | rounds + 1, thread :: others, seen =>
    -- The thread that came first goes on exactly like this one.
    if seen.contains thread.tasks then settle place rounds others seen
    else
      match advance place thread with
      -- All threads behind this one are less preferred.
      | .accept => ([], some thread.bounds)
      | .read chars rest =>
        let (waiting, accepted) := settle place rounds others (thread.tasks :: seen)
        (⟨chars, rest, thread.bounds⟩ :: waiting, accepted)
      | .fork threads => settle place rounds (threads ++ others) (thread.tasks :: seen)

/-- Searches the text from a place on.  As long as nothing has matched a new
    thread starts at every character; `best` is the match preferred so far. -/
def searchFrom (regex : Regex) (best : Option Bounds) (threads : List Thread)
    (previous : Option Char) (offset : Nat) (text : List Char) : Option Bounds :=
  let starting : List Thread := if best.isSome then [] else [⟨[.expect (.group 0 regex)], []⟩]
  let place : Place := ⟨previous, text.head?, offset⟩
  let rounds := threads.length + 2 * regex.weight + 8
  let (waiting, accepted) := settle place rounds (threads ++ starting) []
  let best := accepted.orElse fun _ => best
  match text with
  | [] => best
  | c :: rest =>
    -- No thread is left that is preferred to the match found.
    if waiting.isEmpty && best.isSome then best
    else
      let going := (waiting.filter (·.chars.contains c)).map fun w => ⟨w.tasks, w.bounds⟩
      searchFrom regex best going (some c) (offset + 1) rest

/-- The text of a match's group, if the group took part in it. -/
def groupText? (text : List Char) (bounds : Bounds) (index : Nat) : Option (List Char) := do
  let start ← bounds.lookup (2 * index)
  let stop ← bounds.lookup (2 * index + 1)
  return (text.drop start).take (stop - start)

/-- A match inside a text: its group bounds, counted in characters. -/
structure Match where
  bounds : Bounds
  deriving DecidableEq, Repr

/-- Where the match starts. -/
def Match.start (found : Match) : Nat := (found.bounds.lookup 0).getD 0

/-- Where the match ends. -/
def Match.stop (found : Match) : Nat := (found.bounds.lookup 1).getD 0

/-- The leftmost preferred match that starts at character `offset` or later. -/
def find? (pattern : Pattern) (text : List Char) (offset : Nat) : Option Match :=
  (searchFrom pattern.regex none [] (if offset = 0 then none else text[offset - 1]?) offset
    (text.drop offset)).map (⟨·⟩)

/-- All matches of a text from character `offset` on.  A search goes on where
    the last match ended; an empty match directly at the end of the last match
    is passed over. -/
def findAllFrom (pattern : Pattern) (text : List Char) :
    (rounds : Nat) → (offset : Nat) → (lastStop : Option Nat) → List Match
  | 0, _, _ => []
  | rounds + 1, offset, lastStop =>
    if text.length < offset then []
    else
      match pattern.find? text offset with
      | none => []
      | some found =>
        if found.start = found.stop && lastStop == some found.stop then
          findAllFrom pattern text rounds (offset + 1) lastStop
        else found :: findAllFrom pattern text rounds found.stop (some found.stop)

/-- All matches of a text, from left to right and without overlap.  Every second
    search at least moves on by one character. -/
def findAll (pattern : Pattern) (text : List Char) : List Match :=
  findAllFrom pattern text (2 * text.length + 3) 0 none

/-- Nothing is found where the first search finds nothing. -/
theorem findAll_eq_nil_iff {pattern : Pattern} {text : List Char} :
    pattern.findAll text = [] ↔ pattern.find? text 0 = none := by
  unfold findAll
  rw [findAllFrom]
  cases pattern.find? text 0 <;> simp

end Stencil.Pattern
