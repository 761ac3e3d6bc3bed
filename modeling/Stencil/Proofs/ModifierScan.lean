import Stencil.Expr.Resolve
import Stencil.Proofs.Octets
import Stencil.Proofs.StringTracking

/-! # Modifier chains and assignments by their bytes

The pipes and equals signs of an expression are found as byte offsets.  What
stands next to one is looked at byte by byte, and the parts of a chain are the
slices between its lone pipes.

* `outsideFrom` — the offsets of a delimiter outside strings;
* `octetBefore` — the byte in front of an offset;
* `scanChain` / `scanModifier` — the parts of a chain and of a modifier;
* `scanModifiers_eq` — chains are taken apart without a trap;
* `scanAssignment_eq` — so are assignments recognised.
-/

namespace Stencil.Expr

open Stencil.Template (isQuote)
open Stencil.Text

/-! ## Scanning -/

/-- The offsets at which a delimiter stands outside strings, in marked text at an
    offset. -/
def outsideFrom (delimiter : Char) (place : Nat) : List (Char × Bool) → List Nat
  | [] => []
  | (c, outside) :: rest =>
    let later := outsideFrom delimiter (place + c.utf8Size) rest
    if c = delimiter && outside then place :: later else later

/-- The byte in front of an offset; nothing stands in front of the first one. -/
def octetBefore (text : List Char) (place : Nat) : Except Trap (Option Char) :=
  if place = 0 then .ok none
  else do
    let previous ← subtract place 1
    let byte ← octet text previous
    return some byte

/-- The pipes among some that stand next to no other one. -/
def scanLone (text : List Char) : List Nat → Except Trap (List Nat)
  | [] => .ok []
  | place :: others => do
    let previous ← octetBefore text place
    let later ← scanLone text others
    if octet? text (place + 1) = some '|' || previous = some '|' then return later
    else return place :: later

/-- The text behind each of some separators, up to the next one. -/
def scanSegments (text : List Char) : List Nat → Except Trap (List (List Char))
  | [] => .ok []
  | place :: others => do
    let segment ← slice text (place + 1) (others.headD (byteLength text))
    let later ← scanSegments text others
    return segment :: later

def scanChain (text : List Char) : Except Trap (Option (List Char × List (List Char))) :=
  let pipes := outsideFrom '|' 0 (mark text)
  match pipes.head? with
  | none => .ok none
  | some first =>
    if octet? text (first + 1) = some '|' then .ok none
    else do
      let separators ← scanLone text pipes
      let base ← slice text 0 first
      let modifiers ← scanSegments text separators
      return some (base, modifiers)

/-- The text around the first lone colon from an offset on. -/
def scanColon (text : List Char) (place : Nat) : Except Trap (Option (List Char × List Char)) :=
  if _inside : place < byteLength text then do
    let byte ← octet text place
    if byte = ':' then
      if octet? text (place + 1) = some ':' then scanColon text (place + 2)
      else
        let name ← slice text 0 place
        let arguments ← sliceFrom text (place + 1)
        return some (name, arguments)
    else scanColon text (place + 1)
  else return none
termination_by byteLength text - place

def scanModifier (written : List Char) : Except Trap (List Char × Option (List Char)) := do
  let trimmed := trim written
  match ← scanColon trimmed 0 with
  | some (name, arguments) => return (trimEnd name, some arguments)
  | none => return (trimmed, none)

def scanApplied (target : Expr) : List (List Char) → Except Trap Expr
  | [] => .ok target
  | written :: others => do
    let (name, arguments) ← scanModifier written
    scanApplied (.modifier name target arguments) others

def scanModifiers (text : List Char) : Except Trap Expr := do
  match ← scanChain text with
  | none => return .code text
  | some (base, modifiers) => scanApplied (.code (trimEnd base)) modifiers

/-- Whether one of some equals signs is part of no other operator. -/
def scanAssigns (text : List Char) : List Nat → Except Trap Bool
  | [] => .ok false
  | place :: others => do
    let previous ← octetBefore text place
    if previous.any ['=', '!', '<', '>'].contains ||
        (octet? text (place + 1)).any ['=', '>'].contains then scanAssigns text others
    else return true

def scanAssignment (text : List Char) : Except Trap Bool :=
  scanAssigns text (outsideFrom '=' 0 (mark text))

/-! ## Neighbours -/

/-- Whether a character stands in front of an offset; without one it is the first. -/
def Preceded (text : List Char) (place : Nat) : Option Char → Prop
  | none => place = 0
  | some c => ∃ start rest, StandsAt text start (c :: rest) ∧ start + c.utf8Size = place

section Neighbours

variable {text rest : List Char} {marked : List (Char × Bool)} {place start : Nat}
  {previous : Option Char} {c : Char}

theorem preceded_tail (stands : StandsAt text place (c :: rest)) :
    Preceded text (place + c.utf8Size) (some c) := ⟨place, rest, stands, rfl⟩

/-- What is asked about the byte in front has the same answer for the character. -/
theorem octetBefore_eq (preceded : Preceded text place previous) :
    ∃ byte, octetBefore text place = .ok byte ∧
      ∀ holds : Char → Bool, (∀ d, IsWide d → holds d = false) →
        byte.any holds = previous.any holds := by
  cases previous with
  | none =>
    obtain rfl : place = 0 := preceded
    exact ⟨none, rfl, fun _ _ => rfl⟩
  | some c =>
    obtain ⟨start, rest, stands, rfl⟩ := preceded
    have size := c.utf8Size_pos
    obtain ⟨byte, seen, same⟩ := stands.last
    rw [← Nat.add_sub_assoc size] at seen
    refine ⟨some byte, ?_, ?_⟩
    · rw [octetBefore, if_neg (by omega), subtract_eq (by omega), ok_bind, octet_eq seen]
      rfl
    · intro holds narrow
      rcases same with rfl | ⟨wideByte, wide⟩
      · rfl
      · simp [narrow byte wideByte, narrow c wide]

theorem octetBefore_pipe (preceded : Preceded text place previous) :
    ∃ byte, octetBefore text place = .ok byte ∧ (byte = some '|' ↔ previous = some '|') := by
  obtain ⟨byte, before, same⟩ := octetBefore_eq preceded
  refine ⟨byte, before, ?_⟩
  rw [eq_some_iff_any, eq_some_iff_any, same]
  intro d wide
  simpa using ne_of_isWide wide (by decide)

end Neighbours

/-! ## Chains -/

/-- The offsets of the pipes outside strings that stand next to no other one, in
    marked text at an offset. -/
def lonePipes (previous : Option Char) (place : Nat) : List (Char × Bool) → List Nat
  | [] => []
  | (c, outside) :: rest =>
    let later := lonePipes (some c) (place + c.utf8Size) rest
    let lone := previous != some '|' && (rest.head?.map Prod.fst) != some '|'
    if c = '|' && outside && lone then place :: later else later

section Chains

variable {text pending : List Char} {marked : List (Char × Bool)} {place start : Nat}
  {previous : Option Char} {c : Char}

theorem lonePipes_of_lone {outside : Bool} (lone : (c = '|' && outside &&
      (previous != some '|' && (marked.head?.map Prod.fst) != some '|')) = true) :
    lonePipes previous place ((c, outside) :: marked) =
      place :: lonePipes (some c) (place + c.utf8Size) marked := by
  rw [lonePipes]
  exact if_pos lone

theorem lonePipes_of_not_lone {outside : Bool} (other : ¬ (c = '|' && outside &&
      (previous != some '|' && (marked.head?.map Prod.fst) != some '|')) = true) :
    lonePipes previous place ((c, outside) :: marked) =
      lonePipes (some c) (place + c.utf8Size) marked := by
  rw [lonePipes]
  exact if_neg other

theorem scanLone_eq (stands : StandsAt text place (marked.map Prod.fst))
    (preceded : Preceded text place previous) :
    scanLone text (outsideFrom '|' place marked) = .ok (lonePipes previous place marked) := by
  induction marked generalizing place previous with
  | nil => rfl
  | cons first rest ih =>
    obtain ⟨c, outside⟩ := first
    have later := ih stands.tail (preceded_tail stands)
    by_cases pipe : (c = '|' && outside) = true
    · obtain ⟨same, rfl⟩ := Bool.and_eq_true_iff.1 pipe
      obtain rfl := of_decide_eq_true same
      obtain ⟨byte, before, front⟩ := octetBefore_pipe preceded
      have behind := (stands.tail_narrow (by decide)).octet?_eq_iff (d := '|') (by decide)
      rw [List.head?_map] at behind
      rw [outsideFrom, if_pos pipe, scanLone, before]
      simp only [ok_bind, later, behind, front, lonePipes]
      by_cases left : previous = some '|' <;>
        by_cases right : rest.head?.map Prod.fst = some '|' <;> simp [left, right]
    · rw [outsideFrom, if_neg pipe, later, lonePipes, if_neg (by simp_all)]

/-- The slices between the lone pipes are the pieces of a chain. -/
theorem scanSegments_eq (previous : Option Char) (pending : List Char)
    (started : StandsAt text start (pending ++ marked.map Prod.fst)) :
    ∃ piece pieces, chainPieces previous marked = piece :: pieces ∧
      slice text start ((lonePipes previous (start + byteLength pending) marked).headD
        (byteLength text)) = .ok (pending ++ piece) ∧
      scanSegments text (lonePipes previous (start + byteLength pending) marked) = .ok pieces := by
  induction marked generalizing start pending previous with
  | nil => exact ⟨[], [], rfl, started.sliceFrom, rfl⟩
  | cons first rest ih =>
    obtain ⟨c, outside⟩ := first
    have stands := started.behind
    by_cases lone : (c = '|' && outside && (previous != some '|' &&
        (rest.head?.map Prod.fst) != some '|')) = true
    · -- The piece ends here, and the next one begins behind the pipe.
      obtain rfl : c = '|' := by
        simp only [Bool.and_eq_true, decide_eq_true_eq] at lone
        exact lone.1.1
      obtain ⟨piece, pieces, chain, sliced, segments⟩ :=
        ih (some '|') [] stands.tail
      have size : '|'.utf8Size = 1 := rfl
      rw [byteLength_nil, Nat.add_zero, size] at sliced segments
      refine ⟨[], piece :: pieces, ?_, ?_, ?_⟩
      · rw [chainPieces, chain]
        exact if_pos lone
      · rw [lonePipes_of_lone lone, List.headD_cons, started.slice, List.append_nil]
      · rw [lonePipes_of_lone lone, scanSegments, size, sliced, segments]
        rfl
    · have grown : StandsAt text start ((pending ++ [c]) ++ rest.map Prod.fst) := by
        simpa using started
      obtain ⟨piece, pieces, chain, sliced, segments⟩ := ih (some c) _ grown
      rw [byteLength_append, byteLength_cons, byteLength_nil, Nat.add_zero, ← Nat.add_assoc] at sliced segments
      refine ⟨c :: piece, pieces, ?_, ?_, ?_⟩
      · rw [chainPieces, chain]
        exact if_neg lone
      · rw [lonePipes_of_not_lone lone, sliced]
        simp
      · rw [lonePipes_of_not_lone lone, segments]

/-- Whether an expression is no chain, asked about its first pipe. -/
theorem startsWithOr_eq (stands : StandsAt text place (marked.map Prod.fst)) :
    startsWithOr marked =
      match (outsideFrom '|' place marked).head? with
      | none => true
      | some first => octet? text (first + 1) = some '|' := by
  induction marked generalizing place with
  | nil => rfl
  | cons first rest ih =>
    obtain ⟨c, outside⟩ := first
    by_cases pipe : (c = '|' && outside) = true
    · obtain ⟨same, rfl⟩ := Bool.and_eq_true_iff.1 pipe
      obtain rfl := of_decide_eq_true same
      have behind := (stands.tail_narrow (by decide)).octet?_eq_iff (d := '|') (by decide)
      rw [List.head?_map] at behind
      rw [startsWithOr, if_pos pipe, outsideFrom, if_pos pipe, Bool.eq_iff_iff]
      simp [behind]
    · rw [startsWithOr, if_neg pipe, ih stands.tail, outsideFrom, if_neg pipe]

/-- The first pipe outside strings stands alone, or there is no chain.  A pipe in
    front of it would be outside, too, because no string is opened by one. -/
theorem head?_lonePipes {state : Quoting} (opened : state.Opened)
    (quiet : previous = some '|' → state ≠ .outside)
    (chain : startsWithOr (markFrom state text) = false) :
    (lonePipes previous place (markFrom state text)).head? =
      (outsideFrom '|' place (markFrom state text)).head? := by
  induction text generalizing state previous place with
  | nil => rfl
  | cons c text ih =>
    rw [markFrom] at chain ⊢
    by_cases pipe : (c = '|' && (state == .outside && !isQuote c)) = true
    · have parts := pipe
      simp only [Bool.and_eq_true, decide_eq_true_eq, beq_iff_eq] at parts
      obtain ⟨rfl, rfl, -⟩ := parts
      rw [startsWithOr, if_pos pipe] at chain
      have front : previous ≠ some '|' := fun same => quiet same rfl
      rw [lonePipes_of_lone (by simpa [front, isQuote] using chain), outsideFrom, if_pos pipe]
      rfl
    · rw [startsWithOr, if_neg pipe] at chain
      have other : ¬ (c = '|' && (state == .outside && !isQuote c) && (previous != some '|' &&
          ((markFrom (state.next c) text).head?.map Prod.fst) != some '|')) = true := by
        intro lone
        exact pipe (Bool.and_eq_true_iff.1 lone).1
      rw [lonePipes_of_not_lone other, outsideFrom, if_neg pipe]
      apply ih (Quoting.opened_next opened c) _ chain
      rintro ⟨⟩
      cases state with
      | outside => exact absurd rfl pipe
      | inside quote =>
        have different : '|' ≠ quote := by
          rintro rfl
          cases opened
        simp [Quoting.next, different]
      | escaped quote => simp [Quoting.next]

theorem scanChain_eq (text : List Char) : scanChain text = .ok (splitChain? text) := by
  have whole : StandsAt text 0 ((mark text).map Prod.fst) := by
    rw [mark, map_fst_markFrom]
    exact standsAt_zero text
  have first := startsWithOr_eq whole
  have begins : Preceded text 0 none := rfl
  have lone := scanLone_eq whole begins
  obtain ⟨base, modifiers, pieces, sliced, segments⟩ :=
    scanSegments_eq none [] whole
  rw [byteLength_nil, Nat.add_zero] at sliced segments
  cases chain : startsWithOr (mark text) with
  | true =>
    rw [splitChain?, chain, if_pos rfl, scanChain]
    rw [chain] at first
    cases pipe : (outsideFrom '|' 0 (mark text)).head? with
    | none => rfl
    | some place =>
      rw [pipe] at first
      exact if_pos (of_decide_eq_true first.symm)
  | false =>
    rw [splitChain?, chain, if_neg (by decide), pieces, scanChain]
    rw [chain] at first
    cases pipe : (outsideFrom '|' 0 (mark text)).head? with
    | none =>
      rw [pipe] at first
      cases first
    | some place =>
      rw [pipe] at first
      have start : (lonePipes none 0 (mark text)).head? = some place := by
        rw [← pipe]
        exact head?_lonePipes Quoting.opened_outside (by simp) chain
      rw [List.headD_eq_head?_getD, start, Option.getD_some] at sliced
      simp only [if_neg (of_decide_eq_false first.symm), lone, ok_bind, sliced, segments]
      rfl

end Chains

/-! ## Modifiers -/

section Modifiers

variable {text before rest : List Char} {place : Nat} {byte : Char}

theorem scanColon_end (ended : byteLength text ≤ place) : scanColon text place = .ok none := by
  rw [scanColon, dif_neg (Nat.not_lt.2 ended)]
  rfl

theorem scanColon_some (seen : octet? text place = some byte) :
    scanColon text place =
      if byte = ':' then
        if octet? text (place + 1) = some ':' then scanColon text (place + 2)
        else do
          let name ← slice text 0 place
          let arguments ← sliceFrom text (place + 1)
          return some (name, arguments)
      else scanColon text (place + 1) := by
  rw [scanColon, dif_pos (lt_of_octet? seen), octet_eq seen]
  rfl

theorem scanColon_eq (before : List Char) (started : StandsAt text 0 (before ++ rest)) :
    scanColon text (byteLength before) =
      .ok ((splitColon? rest).map fun (name, arguments) => (before ++ name, arguments)) := by
  have size : byteLength [':'] = 1 := rfl
  fun_induction splitColon? rest generalizing before with
  | case1 =>
    have length := started.behind.length
    rw [scanColon_end (by simpa using Nat.le_of_eq length.symm)]
    rfl
  | case2 rest ih =>
    have stands : StandsAt text (byteLength before) (':' :: ':' :: rest) := by
      simpa using started.behind
    have behind := stands.tail_narrow (by decide)
    have later := ih (before ++ [':', ':']) (by simpa using started)
    have pair : byteLength (before ++ [':', ':']) = byteLength before + 2 := by
      rw [byteLength_append]
      rfl
    rw [pair] at later
    rw [scanColon_some (stands.octet?_narrow (by decide)), if_pos rfl,
      if_pos (behind.octet?_narrow (by decide)), later]
    cases splitColon? rest <;> simp
  | case3 rest alone =>
    have stands : StandsAt text (byteLength before) (':' :: rest) := by simpa using started.behind
    have behind := stands.tail_narrow (by decide)
    have single : ¬ octet? text (byteLength before + 1) = some ':' := by
      rw [behind.octet?_eq_iff (by decide)]
      intro head
      obtain ⟨after, rfl⟩ := List.head?_eq_some_iff.1 head
      exact alone after rfl rfl
    have name := started.slice
    rw [Nat.zero_add] at name
    rw [scanColon_some (stands.octet?_narrow (by decide)), if_pos rfl, if_neg single, name,
      behind.sliceFrom]
    simp
  | case4 c rest _ other ih =>
    have stands : StandsAt text (byteLength before) (c :: rest) := by simpa using started.behind
    have passes := stands.pass (scanColon text) (· ≠ ':')
      (fun place byte seen plain => by rw [scanColon_some seen, if_neg plain]) other
      fun d wide => ne_of_isWide wide (by decide)
    have later := ih (before ++ [c]) (by simpa using started)
    rw [byteLength_append, byteLength_cons, byteLength_nil, Nat.add_zero] at later
    rw [passes, later]
    cases splitColon? rest <;> simp

theorem scanModifier_eq (written : List Char) :
    scanModifier written = .ok (parseModifier written) := by
  have started : StandsAt (trim written) 0 ([] ++ trim written) := standsAt_zero _
  have split := scanColon_eq [] started
  rw [byteLength_nil] at split
  simp only [scanModifier, parseModifier, split, ok_bind]
  cases splitColon? (trim written) <;> rfl

theorem scanApplied_eq (target : Expr) (modifiers : List (List Char)) :
    scanApplied target modifiers = .ok (modifiers.foldl applyModifier target) := by
  induction modifiers generalizing target with
  | nil => rfl
  | cons written others ih =>
    rw [scanApplied, scanModifier_eq, ok_bind]
    exact ih _

theorem scanModifiers_eq (text : List Char) : scanModifiers text = .ok (composeModifiers text) := by
  rw [scanModifiers, scanChain_eq, ok_bind, composeModifiers]
  cases splitChain? text with
  | none => rfl
  | some parts => exact scanApplied_eq _ _

end Modifiers

/-! ## Assignments -/

theorem not_contains_of_isWide {letters : List Char} {d : Char} (wide : IsWide d)
    (narrow : ∀ c ∈ letters, ¬ IsWide c) : letters.contains d = false := by
  rw [← Bool.not_eq_true, List.contains_iff_mem]
  intro listed
  exact narrow d listed wide

theorem any_eq_getD {α : Type} (value : Option α) (holds : α → Bool) :
    value.any holds = (value.map holds).getD false := by
  cases value <;> rfl

theorem scanAssigns_eq {text : List Char} {marked : List (Char × Bool)} {place : Nat}
    {previous : Option Char} (stands : StandsAt text place (marked.map Prod.fst))
    (preceded : Preceded text place previous) :
    scanAssigns text (outsideFrom '=' place marked) = .ok (assigns previous marked) := by
  induction marked generalizing place previous with
  | nil => rfl
  | cons first rest ih =>
    obtain ⟨c, outside⟩ := first
    have later := ih stands.tail (preceded_tail stands)
    by_cases equals : (c = '=' && outside) = true
    · obtain ⟨same, rfl⟩ := Bool.and_eq_true_iff.1 equals
      obtain rfl := of_decide_eq_true same
      obtain ⟨byte, before, front⟩ := octetBefore_eq preceded
      have behind := (stands.tail_narrow (by decide)).any_octet? ['=', '>'].contains
        fun d wide => not_contains_of_isWide wide (by simp [IsWide])
      have left := front ['=', '!', '<', '>'].contains
        fun d wide => not_contains_of_isWide wide (by simp [IsWide])
      rw [outsideFrom, if_pos equals, scanAssigns, before, ok_bind, left, behind, later, assigns,
        any_eq_getD, any_eq_getD, List.head?_map, Option.map_map, Function.comp_def]
      cases (previous.map ['=', '!', '<', '>'].contains).getD false <;>
        cases (rest.head?.map fun next => ['=', '>'].contains next.1).getD false <;> rfl
    · have other : (c == '=' && outside) = false := Bool.eq_false_iff.2 (by simpa using equals)
      rw [outsideFrom, if_neg equals, later, assigns, other]
      rfl

theorem scanAssignment_eq (text : List Char) : scanAssignment text = .ok (isAssignment text) := by
  have begins : Preceded text 0 none := rfl
  refine scanAssigns_eq ?_ begins
  rw [mark, map_fst_markFrom]
  exact standsAt_zero text

end Stencil.Expr
