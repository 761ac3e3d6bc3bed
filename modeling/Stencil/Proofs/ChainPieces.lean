import Stencil.Proofs.ModifierChains

/-! # The pieces of a modifier chain

A chain is divided at its lone pipes outside strings.  Its base and its segments, joined
by pipes again, are the whole chain: nothing gets lost, and nothing that stands for an
operator is taken for a separator.

* `splitChain?_eq_some_iff` — a chain begins at the first pipe outside strings;
* `joined` — pieces joined by pipes outside strings;
* `IsChainCut` — text cut at its lone pipes, and nowhere else;
* `isChainCut_chainPieces` — the pieces of a chain are such a cut;
* `splitChain?_lossless` — base and segments make up the chain, and the pipes that are
  left in the segments stand in runs.
-/

namespace Stencil.Expr

variable {text base front rest : List Char} {modifiers : List (List Char)} {state : Quoting}
  {previous : Option Char} {c : Char} {outside : Bool} {marked : List (Char × Bool)}

/-! ## The first pipe -/

/-- If the first pipe outside strings is no half of a `||`, then it divides the text. -/
theorem exists_first_pipe (chain : startsWithOr (markFrom state text) = false) :
    ∃ front rest, text = front ++ '|' :: rest ∧ state.after front = .outside ∧
      ('|', true) ∉ markFrom state front ∧ rest.head? ≠ some '|' := by
  induction text generalizing state with
  | nil => cases chain
  | cons c text ih =>
    rw [markFrom, startsWithOr] at chain
    split at chain
    · rename_i pipe
      simp only [Bool.and_eq_true, decide_eq_true_eq, beq_iff_eq] at pipe
      obtain ⟨rfl, rfl, -⟩ := pipe
      have next : Quoting.outside.next '|' = .outside := rfl
      rw [next, ← mark, head?_mark] at chain
      exact ⟨[], text, rfl, rfl, List.not_mem_nil, by simpa using chain⟩
    · rename_i other
      obtain ⟨front, rest, rfl, closed, pipeless, lone⟩ := ih chain
      refine ⟨c :: front, rest, rfl, closed, ?_, lone⟩
      rw [markFrom, List.mem_cons, not_or]
      refine ⟨?_, pipeless⟩
      intro same
      obtain ⟨rfl, stands⟩ := Prod.mk.inj same
      simp [← stands] at other

/-- A text is a chain exactly if its first pipe outside strings is no half of a `||`.  The
    base ends there, and the segments are the pieces of what stands behind. -/
theorem splitChain?_eq_some_iff : splitChain? text = some (base, modifiers) ↔
    ∃ rest, text = base ++ '|' :: rest ∧ IsChainPart base ∧ rest.head? ≠ some '|' ∧
      chainPieces (some '|') (mark rest) = modifiers := by
  have pieces {front rest : List Char} (part : IsChainPart front) (lone : rest.head? ≠ some '|') :
      chainPieces none (mark (front ++ '|' :: rest)) =
        front :: chainPieces (some '|') (mark rest) :=
    part.chainPieces_pipe (by simp) (by rwa [head?_mark])
  constructor
  · intro split
    cases chain : startsWithOr (mark text) with
    | true =>
      rw [splitChain?, chain, if_pos rfl] at split
      cases split
    | false =>
      obtain ⟨front, rest, rfl, closed, pipeless, lone⟩ := exists_first_pipe chain
      have part : IsChainPart front := ⟨closed, pipeless⟩
      rw [splitChain?, chain, if_neg Bool.false_ne_true, pieces part lone] at split
      obtain ⟨rfl, rfl⟩ := Prod.mk.inj (Option.some.inj split)
      exact ⟨rest, rfl, part, lone, rfl⟩
  · rintro ⟨rest, rfl, part, lone, rfl⟩
    have chain : startsWithOr (mark (base ++ '|' :: rest)) = false := by
      rw [part.mark_pipe]
      exact startsWithOr_append part.pipeless (by rwa [head?_mark])
    rw [splitChain?, chain, if_neg Bool.false_ne_true, pieces part lone]

/-! ## Pieces of marked text -/

/-- Pieces joined by pipes outside strings. -/
def joined (pieces : List (List (Char × Bool))) : List (Char × Bool) :=
  [('|', true)].intercalate pieces

/-- The last character of marked text, or what stands in front of it. -/
def lastOf (previous : Option Char) (marked : List (Char × Bool)) : Option Char :=
  (marked.getLast?.map Prod.fst).or previous

section Joined

variable {piece : List (Char × Bool)} {pieces others : List (List (Char × Bool))}

@[simp] theorem joined_singleton (piece : List (Char × Bool)) : joined [piece] = piece :=
  List.intercalate_singleton

theorem joined_cons (piece : List (Char × Bool)) (filled : pieces ≠ []) :
    joined (piece :: pieces) = piece ++ ('|', true) :: joined pieces := by
  cases pieces with
  | nil => exact absurd rfl filled
  | cons second others => simp [joined, List.intercalate_cons_cons]

theorem joined_cons_cons (first : Char × Bool) (piece : List (Char × Bool))
    (others : List (List (Char × Bool))) :
    joined ((first :: piece) :: others) = first :: joined (piece :: others) := by
  cases others with
  | nil => simp
  | cons other others => simp [joined, List.intercalate_cons_cons]

/-- The last piece stands at the end. -/
theorem exists_joined_concat (pieces : List (List (Char × Bool))) (piece : List (Char × Bool)) :
    ∃ before, joined (pieces ++ [piece]) = before ++ piece := by
  induction pieces with
  | nil => exact ⟨[], joined_singleton piece⟩
  | cons first pieces ih =>
    obtain ⟨before, same⟩ := ih
    refine ⟨first ++ ('|', true) :: before, ?_⟩
    rw [List.cons_append, joined_cons first (by simp), same, List.append_assoc, List.cons_append]

theorem map_fst_joined (pieces : List (List (Char × Bool))) :
    (joined pieces).map Prod.fst = ['|'].intercalate (pieces.map (List.map Prod.fst)) := by
  induction pieces with
  | nil => rfl
  | cons piece pieces ih =>
    cases pieces with
    | nil => simp
    | cons second others =>
      rw [joined_cons piece (List.cons_ne_nil _ _), List.map_append, List.map_cons, ih]
      simp [List.intercalate_cons_cons]

@[simp] theorem lastOf_none (marked : List (Char × Bool)) :
    lastOf none marked = marked.getLast?.map Prod.fst := Option.or_none

theorem lastOf_cons (previous : Option Char) (c : Char) (outside : Bool)
    (marked : List (Char × Bool)) :
    lastOf previous ((c, outside) :: marked) = lastOf (some c) marked := by
  cases marked with
  | nil => rfl
  | cons second marked => simp [lastOf, List.getLast?_cons]

end Joined

/-- Marked text that is cut at its lone pipes outside strings, and nowhere else.  In front
    of the text stands another character. -/
structure IsChainCut (previous : Option Char) (marked : List (Char × Bool))
    (pieces : List (List (Char × Bool))) : Prop where
  filled : pieces ≠ []
  whole : joined pieces = marked
  /-- No pipe at which the text is cut stands next to another one. -/
  lone : ∀ front back, pieces = front ++ back → front ≠ [] → back ≠ [] →
    lastOf previous (joined front) ≠ some '|' ∧ (joined back).head?.map Prod.fst ≠ some '|'
  /-- All other pipes outside strings do. -/
  runs : ∀ front left right back, pieces = front ++ (left ++ ('|', true) :: right) :: back →
    lastOf previous (joined (front ++ [left])) = some '|' ∨
      (joined (right :: back)).head?.map Prod.fst = some '|'

namespace IsChainCut

variable {piece : List (Char × Bool)} {pieces others : List (List (Char × Bool))}

theorem nil (previous : Option Char) : IsChainCut previous [] [[]] where
  filled := List.cons_ne_nil _ _
  whole := rfl
  lone := by
    intro front back split left right
    rw [eq_comm, List.append_eq_singleton_iff] at split
    rcases split with ⟨none, -⟩ | ⟨-, none⟩
    · exact absurd none left
    · exact absurd none right
  runs := by
    intro front left right back split
    cases front <;> simp at split

/-- Cutting at a lone pipe begins a new piece. -/
theorem pipe (cut : IsChainCut (some '|') marked pieces) (before : previous ≠ some '|')
    (behind : marked.head?.map Prod.fst ≠ some '|') :
    IsChainCut previous (('|', true) :: marked) ([] :: pieces) where
  filled := List.cons_ne_nil _ _
  whole := by rw [joined_cons [] cut.filled, cut.whole, List.nil_append]
  lone := by
    intro front back split left right
    cases front with
    | nil => exact absurd rfl left
    | cons first front =>
      obtain ⟨rfl, rest⟩ := List.cons.inj split
      by_cases only : front = []
      · subst only
        obtain rfl : pieces = back := rest
        rw [cut.whole]
        exact ⟨before, behind⟩
      · rw [joined_cons [] only, List.nil_append, lastOf_cons]
        exact cut.lone _ _ rest only right
  runs := by
    intro front left right back split
    cases front with
    | nil => simp at split
    | cons first front =>
      obtain ⟨rfl, rest⟩ := List.cons.inj split
      rw [List.cons_append, joined_cons [] (by simp), List.nil_append, lastOf_cons]
      exact cut.runs _ _ _ _ rest

/-- Another character belongs to the first piece. -/
theorem other (cut : IsChainCut (some c) marked (piece :: others))
    (crowded : c = '|' → outside = true →
      previous = some '|' ∨ marked.head?.map Prod.fst = some '|') :
    IsChainCut previous ((c, outside) :: marked) (((c, outside) :: piece) :: others) where
  filled := List.cons_ne_nil _ _
  whole := by rw [joined_cons_cons, cut.whole]
  lone := by
    intro front back split left right
    cases front with
    | nil => exact absurd rfl left
    | cons first front =>
      obtain ⟨rfl, rfl⟩ := List.cons.inj split
      rw [joined_cons_cons, lastOf_cons]
      exact cut.lone (piece :: front) back rfl (List.cons_ne_nil _ _) right
  runs := by
    intro front left right back split
    cases front with
    | nil =>
      obtain ⟨same, rfl⟩ := List.cons.inj split
      cases left with
      | nil =>
        -- The character itself is a pipe, and not a lone one.
        obtain ⟨pipe, rfl⟩ := List.cons.inj same
        obtain ⟨rfl, rfl⟩ := Prod.mk.inj pipe
        rw [cut.whole]
        exact crowded rfl rfl
      | cons first left =>
        obtain ⟨rfl, rfl⟩ := List.cons.inj same
        rw [List.nil_append, joined_cons_cons, lastOf_cons]
        exact cut.runs [] left right others rfl
    | cons first front =>
      obtain ⟨rfl, rfl⟩ := List.cons.inj split
      rw [List.cons_append, joined_cons_cons, lastOf_cons]
      exact cut.runs (piece :: front) left right back rfl

end IsChainCut

/-- The pieces of a chain are cut at its lone pipes. -/
theorem isChainCut_chainPieces (previous : Option Char) (marked : List (Char × Bool)) :
    ∃ pieces, IsChainCut previous marked pieces ∧
      pieces.map (List.map Prod.fst) = chainPieces previous marked := by
  induction marked generalizing previous with
  | nil => exact ⟨[[]], .nil previous, rfl⟩
  | cons first rest ih =>
    obtain ⟨c, outside⟩ := first
    obtain ⟨pieces, cut, same⟩ := ih (some c)
    rw [chainPieces]
    split
    · rename_i lone
      simp only [Bool.and_eq_true, decide_eq_true_eq, bne_iff_ne] at lone
      obtain ⟨⟨rfl, rfl⟩, before, behind⟩ := lone
      exact ⟨[] :: pieces, cut.pipe before behind, by rw [List.map_cons, same]; rfl⟩
    · rename_i crowded
      obtain ⟨piece, others, rfl⟩ := List.exists_cons_of_ne_nil cut.filled
      refine ⟨((c, outside) :: piece) :: others, cut.other ?_, ?_⟩
      · rintro rfl rfl
        by_contra neither
        rw [not_or] at neither
        exact crowded (by simp [neither])
      · rw [← same]
        rfl

theorem chainPieces_ne_nil (previous : Option Char) (marked : List (Char × Bool)) :
    chainPieces previous marked ≠ [] := by
  obtain ⟨pieces, cut, same⟩ := isChainCut_chainPieces previous marked
  rw [← same]
  simpa using cut.filled

/-! ## Segments -/

/-- Every pipe outside strings stands next to another pipe. -/
def PipesInRuns (marked : List (Char × Bool)) : Prop :=
  ∀ left right, marked = left ++ ('|', true) :: right →
    left.getLast?.map Prod.fst = some '|' ∨ right.head?.map Prod.fst = some '|'

/-- Next to a pipe that is left in a piece stands another one, in the same piece: at its
    ends there are no pipes but those at which the text is cut. -/
theorem IsChainCut.pipesInRuns {pieces : List (List (Char × Bool))}
    (cut : IsChainCut none marked pieces) : ∀ piece ∈ pieces, PipesInRuns piece := by
  rintro piece listed left right rfl
  obtain ⟨front, back, split⟩ := List.append_of_mem listed
  rcases cut.runs _ _ _ _ split with before | behind
  · left
    cases left with
    | nil =>
      -- In front of the piece stands nothing, or a pipe at which the text is cut.
      exfalso
      by_cases first : front = []
      · subst first
        cases before
      · refine (cut.lone _ _ split first (List.cons_ne_nil _ _)).2 ?_
        rw [List.nil_append, joined_cons_cons]
        rfl
    | cons c left =>
      obtain ⟨others, same⟩ := exists_joined_concat front (c :: left)
      rwa [lastOf_none, same, List.getLast?_append_of_ne_nil _ (List.cons_ne_nil _ _)] at before
  · right
    cases right with
    | nil =>
      -- Behind the piece there is the end, or a pipe at which the text is cut.
      exfalso
      by_cases last : back = []
      · subst last
        cases behind
      · have split : pieces = (front ++ [left ++ [('|', true)]]) ++ back := by simp [split]
        obtain ⟨others, same⟩ := exists_joined_concat front (left ++ [('|', true)])
        refine (cut.lone _ _ split (by simp) last).1 ?_
        rw [lastOf_none, same]
        simp
    | cons c right =>
      rwa [joined_cons_cons] at behind

/-- A chain is its base and its segments, joined by pipes.  As they are marked in the
    chain, the base has no pipe outside strings, the segments are joined by lone pipes
    outside strings, and all others in them stand in runs. -/
theorem splitChain?_lossless (split : splitChain? text = some (base, modifiers)) :
    modifiers ≠ [] ∧ base ++ '|' :: ['|'].intercalate modifiers = text ∧
      ('|', true) ∉ mark base ∧
      ∃ pieces, pieces.map (List.map Prod.fst) = modifiers ∧
        joined (mark base :: pieces) = mark text ∧ (∀ piece ∈ pieces, PipesInRuns piece) ∧
        ∀ front back, mark base :: pieces = front ++ back → front ≠ [] → back ≠ [] →
          (joined front).getLast?.map Prod.fst ≠ some '|' ∧
            (joined back).head?.map Prod.fst ≠ some '|' := by
  obtain ⟨rest, rfl, part, lone, rfl⟩ := splitChain?_eq_some_iff.1 split
  obtain ⟨marks, cut, same⟩ := isChainCut_chainPieces none (mark (base ++ '|' :: rest))
  rw [part.chainPieces_pipe (by simp) (by rwa [head?_mark])] at same
  obtain ⟨first, pieces, rfl⟩ := List.exists_cons_of_ne_nil cut.filled
  obtain ⟨start, segments⟩ := List.cons.inj same
  have segmented := chainPieces_ne_nil (some '|') (mark rest)
  have filled : pieces ≠ [] := by
    rintro rfl
    exact segmented segments.symm
  -- Both begin the marked chain, and they are as long as each other.
  have marked : first = mark base := by
    have whole := cut.whole
    rw [joined_cons first filled, part.mark_pipe] at whole
    refine List.append_inj_left whole ?_
    rw [← List.length_map Prod.fst, start, ← map_fst_mark base, List.length_map, map_fst_mark]
  subst marked
  refine ⟨segmented, ?_, part.pipeless, pieces, segments, cut.whole, ?_, ?_⟩
  · have whole := congrArg (List.map Prod.fst) cut.whole
    rw [map_fst_joined, List.map_cons, segments, map_fst_mark, map_fst_mark] at whole
    obtain ⟨segment, others, rest⟩ := List.exists_cons_of_ne_nil segmented
    rw [rest, List.intercalate_cons_cons] at whole
    rw [rest, ← whole, List.append_assoc, List.singleton_append]
  · exact fun piece listed => cut.pipesInRuns piece (.tail _ listed)
  · intro front back split before behind
    have apart := cut.lone front back split before behind
    rwa [lastOf_none] at apart

/-- Pipes in strings and behind an escaped quote, runs of two and three, and a last segment
    without a character. -/
theorem splitChain?_lossless_runs :
    let text := "$a['|']|f:$b|||\"\\\"|\"||c|".toList
    let base := "$a['|']".toList
    let modifiers := ["f:$b|||\"\\\"|\"||c".toList, []]
    splitChain? text = some (base, modifiers) ∧
      base ++ '|' :: ['|'].intercalate modifiers = text ∧
      ∃ pieces : List (List (Char × Bool)), pieces.map (List.map Prod.fst) = modifiers ∧
        joined (mark base :: pieces) = mark text ∧ ∀ piece ∈ pieces, PipesInRuns piece := by
  intro text base modifiers
  have split : splitChain? text = some (base, modifiers) := by decide
  obtain ⟨-, whole, -, pieces, segments, marks, runs, -⟩ := splitChain?_lossless split
  exact ⟨split, whole, pieces, segments, marks, runs⟩

end Stencil.Expr
