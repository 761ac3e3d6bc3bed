import Stencil.Pattern.Search

/-! # The leading threads of a search

Which threads a search prefers shows at their order, and what the leading ones do is up
to their works alone: threads behind them neither stop them nor overtake them.  So the
way in which a pattern matches a text can be followed by the works of the leading
threads, from one character to the next.

* `expand` — the works of leading threads brought up to their next character;
* `settle_expand` — `settle` does the same, in front of whatever comes behind;
* `Prevails` — works that match a whole text, whatever comes behind them;
* `Prevails.cons` — from one character to the next;
* `find?_of_prevails` — the match of a pattern whose works prevail.
-/

namespace Stencil.Pattern

/-- Works that go on in the same way at every place, and keep the bounds. -/
def isLocal : List Task → Bool
  | [] | .close _ :: _ | .expect (.anchor _) :: _ | .expect (.group _ _) :: _ => false
  | _ => true

/-- Any place; local works do not look at it. -/
def nowhere : Place := ⟨none, none, 0⟩

/-- Brings the works of leading threads up to their next character, as long as all of
    them are local: what they wait for and what is left then, and the works `seen` on the
    way.  Each round handles one of the works. -/
def expand : Nat → List (List Task) → List (List Task) →
    Option (List (CharSet × List Task) × List (List Task))
  | _, [], seen => some ([], seen)
  | 0, _ :: _, _ => none
  | rounds + 1, tasks :: others, seen =>
    if seen.contains tasks then expand rounds others seen
    else if isLocal tasks then
      match advance nowhere ⟨tasks, []⟩ with
      | .accept => none
      | .read chars rest =>
        (expand rounds others (tasks :: seen)).map fun (waits, seen) => ((chars, rest) :: waits, seen)
      | .fork threads => expand rounds (threads.map Thread.tasks ++ others) (tasks :: seen)
    else none

/-- Threads with the same bounds. -/
def threadsOf (bounds : Bounds) (works : List (List Task)) : List Thread := works.map (⟨·, bounds⟩)

/-- Threads that wait, with the same bounds. -/
def waitingOf (bounds : Bounds) (waits : List (CharSet × List Task)) : List Waiting :=
  waits.map fun (chars, rest) => ⟨chars, rest, bounds⟩

/-- What is left of works that wait, behind a character. -/
def follow (waits : List (CharSet × List Task)) (c : Char) : List (List Task) :=
  (waits.filter (·.1.contains c)).map Prod.snd

/-- A move with other bounds. -/
def Move.withBounds (bounds : Bounds) : Move → Move
  | .accept => .accept
  | .read chars rest => .read chars rest
  | .fork threads => .fork (threadsOf bounds (threads.map Thread.tasks))

variable {place : Place} {bounds : Bounds} {tasks : List Task} {works seen : List (List Task)}
  {waits : List (CharSet × List Task)} {rounds : Nat} {regex : Regex} {c : Char} {text : List Char}

theorem advance_of_isLocal (isLocal : isLocal tasks = true) (place : Place) (bounds : Bounds) :
    advance place ⟨tasks, bounds⟩ = (advance nowhere ⟨tasks, []⟩).withBounds bounds := by
  cases tasks with
  | nil => cases isLocal
  | cons task rest =>
    cases task with
    | close => cases isLocal
    | again body greedy => cases greedy <;> rfl
    | expect regex =>
      cases regex with
      | anchor | group => cases isLocal
      | empty | set | seq | alt => rfl
      | repeated body min max greedy =>
        cases min with
        | zero =>
          cases max with
          | none => cases greedy <;> rfl
          | some max =>
            cases max with
            | zero => rfl
            | succ => cases greedy <;> rfl
        | succ min =>
          cases min with
          | zero => cases max <;> rfl
          | succ => rfl

/-- Leading threads settle by their works, and then the threads behind them do. -/
theorem settle_expand (place : Place) (bounds : Bounds)
    (expanded : (expand rounds works seen).map Prod.fst = some waits) (more : Nat)
    (others : List Thread) :
    ∃ left seen', settle place (rounds + more) (threadsOf bounds works ++ others) seen =
      (waitingOf bounds waits ++ (settle place left others seen').1,
        (settle place left others seen').2) := by
  fun_induction expand rounds works seen generalizing waits with
  | case1 rounds seen =>
    cases expanded
    exact ⟨rounds + more, seen, rfl⟩
  | case2 => cases expanded
  | case3 seen rounds tasks works again ih =>
    obtain ⟨left, seen', settled⟩ := ih expanded
    refine ⟨left, seen', ?_⟩
    rw [← settled, Nat.succ_add, threadsOf, List.map_cons, List.cons_append, settle, if_pos again]
    rfl
  | case4 => cases expanded
  | case5 seen rounds tasks works fresh isLocal chars rest moved ih =>
    rw [Option.map_map] at expanded
    obtain ⟨⟨inner, seen₂⟩, found, rfl⟩ := Option.map_eq_some_iff.1 expanded
    obtain ⟨left, seen', settled⟩ := ih (by rw [found]; rfl)
    refine ⟨left, seen', ?_⟩
    rw [Nat.succ_add, threadsOf, List.map_cons, List.cons_append, settle, if_neg fresh,
      advance_of_isLocal isLocal, moved, Move.withBounds]
    dsimp only
    rw [← threadsOf, settled]
    rfl
  | case6 seen rounds tasks works fresh isLocal threads moved ih =>
    obtain ⟨left, seen', settled⟩ := ih expanded
    refine ⟨left, seen', ?_⟩
    rw [← settled, Nat.succ_add, threadsOf, List.map_cons, List.cons_append, settle, if_neg fresh,
      advance_of_isLocal isLocal, moved, Move.withBounds]
    dsimp only
    rw [threadsOf, threadsOf, List.map_append, List.append_assoc]
  | case7 => cases expanded

/-! ## Whole texts -/

/-- Leading threads with these works match a text to its end, whatever was matched before
    and whatever other threads come behind. -/
def Prevails (regex : Regex) (works : List (List Task)) (text : List Char) : Prop :=
  ∀ best bounds others previous offset,
    searchFrom regex best (threadsOf bounds works ++ others) previous offset text =
      some ((1, offset + text.length) :: bounds)

theorem Prevails.append (prevails : Prevails regex works text) (more : List (List Task)) :
    Prevails regex (works ++ more) text := by
  intro best bounds others previous offset
  rw [threadsOf, List.map_append, List.append_assoc]
  exact prevails best bounds _ previous offset

/-- The end of the whole pattern is the end of the match. -/
theorem Prevails.closed : Prevails regex ([.close 0] :: works) [] := by
  intro best bounds others previous offset
  rw [searchFrom]
  have rounds : (threadsOf bounds ([.close 0] :: works) ++ others).length + 2 * regex.weight + 8 =
      (threadsOf bounds works ++ others).length + 2 * regex.weight + 7 + 2 := by
    simp only [threadsOf, List.map_cons, List.cons_append, List.length_cons]
    omega
  rw [rounds]
  rfl

theorem going_waitingOf (bounds : Bounds) (waits : List (CharSet × List Task)) (c : Char) :
    ((waitingOf bounds waits).filter (·.chars.contains c)).map (fun w => Thread.mk w.tasks w.bounds) =
      threadsOf bounds (follow waits c) := by
  simp [waitingOf, threadsOf, follow, List.filter_map, Function.comp_def]

/-- The leading threads go on behind a character by their works alone. -/
theorem Prevails.cons (expanded : (expand rounds works []).map Prod.fst = some waits)
    (enough : rounds ≤ 2 * regex.weight + 8) (going : waits ≠ [])
    (later : Prevails regex (follow waits c) text) : Prevails regex works (c :: text) := by
  intro best bounds others previous offset
  rw [searchFrom]
  obtain ⟨more, split⟩ : ∃ more, (threadsOf bounds works ++ others).length + 2 * regex.weight + 8 =
      rounds + more := ⟨_, (Nat.add_sub_of_le (by omega)).symm⟩
  rw [split, List.append_assoc]
  obtain ⟨left, seen, settled⟩ := settle_expand ⟨previous, (c :: text).head?, offset⟩ bounds expanded
    more (others ++ if best.isSome then [] else [⟨[.expect (.group 0 regex)], []⟩])
  -- Threads behind may wait for anything or accept; one of the leading ones goes on anyway.
  have waiting : ∀ more : List Waiting, (waitingOf bounds waits ++ more).isEmpty = false := by
    simpa [waitingOf] using going
  dsimp only
  rw [settled, waiting, Bool.false_and, if_neg Bool.false_ne_true, List.filter_append, List.map_append,
    going_waitingOf, later, List.length_cons, Nat.add_assoc, Nat.add_comm 1]

/-- A pattern whose works match a text to its end finds all of it. -/
theorem find?_of_prevails {groups : List (Option (List Char))}
    (expanded : (expand rounds [[.expect regex, .close 0]] [[.expect (.group 0 regex)]]).map Prod.fst =
      some waits)
    (enough : rounds ≤ 2 * regex.weight + 7) (later : Prevails regex (follow waits c) text) :
    (Pattern.mk regex groups).find? (c :: text) 0 = some ⟨[(1, text.length + 1), (0, 0)]⟩ := by
  obtain ⟨more, split⟩ : ∃ more, 2 * regex.weight + 7 = rounds + more :=
    ⟨_, (Nat.add_sub_of_le enough).symm⟩
  obtain ⟨left, seen, settled⟩ :=
    settle_expand ⟨none, some c, 0⟩ [(0, 0)] expanded more []
  have nothing : settle ⟨none, some c, 0⟩ left [] seen = ([], none) := by cases left <;> rfl
  -- The first move opens the group of the whole match.
  have started : settle ⟨none, some c, 0⟩ (rounds + more + 1) [⟨[.expect (.group 0 regex)], []⟩] [] =
      settle ⟨none, some c, 0⟩ (rounds + more) (threadsOf [(0, 0)] [[.expect regex, .close 0]] ++ [])
        [[.expect (.group 0 regex)]] := rfl
  rw [settled, nothing, List.append_nil] at started
  have total : 0 + 2 * regex.weight + 8 = rounds + more + 1 := by omega
  have going := later none [(0, 0)] [] (some c) 1
  rw [find?, if_pos rfl, List.drop_zero, searchFrom]
  simp only [Option.isSome_none, Bool.false_eq_true, if_false, List.nil_append, List.length_nil,
    List.head?_cons, total, started, Bool.and_false, Option.orElse_none]
  rw [going_waitingOf, ← List.append_nil (threadsOf _ _), going, Nat.add_comm]
  rfl

end Stencil.Pattern
