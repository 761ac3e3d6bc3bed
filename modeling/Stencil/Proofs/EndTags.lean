import Mathlib.Data.List.Infix
import Stencil.Proofs.Steps
import Stencil.Proofs.TagOpenings

/-! # Tags that end regions

The tags that end a region are fixed texts, which are found anywhere in a
candidate, in any letter case if case is disregarded.

* `endMarks` — the texts that end the region of a kind;
* `occursIn_iff` — where such a tag is found;
* `Endless` — texts in which no region ends.
-/

namespace Stencil.Tag

variable {ignoreCase : Bool} {kind : TagKind} {text part : List Char}

/-- The kinds that end a region. -/
def regionEnds : List TagKind := [.rawCodeClose, .ignoreClose, .noParseClose]

/-- The texts that end the region of a kind, in lower case. -/
def endMarks : TagKind → List (List Char)
  | .rawCodeClose => ["\x7b/php\x7d".toList]
  | .ignoreClose => ["\x7b/ignore\x7d".toList, "*\x7d".toList]
  | .noParseClose => ["\x7b/noparse\x7d".toList]
  | _ => []

/-- A tag that ends a region is nothing but its opening. -/
theorem mem_openings_of_mem_endMarks {mark : List Char} (listed : mark ∈ endMarks kind) :
    mark ∈ kind.openings := by
  cases kind with
  | rawCodeClose | ignoreClose | noParseClose => exact listed
  | _ => cases listed

theorem map_letterOf_mark {mark : List Char} (listed : mark ∈ endMarks kind) :
    mark.map (letterOf ignoreCase) = mark :=
  map_letterOf_opening (mem_openings_of_mem_endMarks listed)

/-- An end tag is found where its text stands, letter case aside. -/
theorem occursIn_iff (listed : kind ∈ regionEnds) :
    kind.occursIn ignoreCase text = true ↔
      ∃ mark ∈ endMarks kind, mark <:+: text.map (letterOf ignoreCase) := by
  have isFixed : regionEnds ⊆ fixedKinds := by decide
  rw [occursIn_iff_opening (isFixed listed)]
  have same : ∀ kind ∈ regionEnds, kind.openings = endMarks kind := by decide
  rw [same kind listed]

theorem occursIn_of_infix (listed : kind ∈ regionEnds) (inside : part <:+: text)
    (occurs : kind.occursIn ignoreCase part = true) : kind.occursIn ignoreCase text = true := by
  obtain ⟨mark, isMark, within⟩ := (occursIn_iff listed).1 occurs
  exact (occursIn_iff listed).2 ⟨mark, isMark, within.trans (inside.map _)⟩

/-! ## Texts without ends -/

/-- Whether no tag that ends a region stands in a text. -/
def Endless (ignoreCase : Bool) (text : List Char) : Prop :=
  ∀ kind ∈ regionEnds, kind.occursIn ignoreCase text = false

instance (ignoreCase : Bool) (text : List Char) : Decidable (Endless ignoreCase text) :=
  inferInstanceAs (Decidable (∀ kind ∈ regionEnds, _))

theorem endless_iff : Endless ignoreCase text ↔
    ∀ kind ∈ regionEnds, ∀ mark ∈ endMarks kind, ¬ mark <:+: text.map (letterOf ignoreCase) := by
  unfold Endless
  constructor
  · intro endless kind listed mark isMark inside
    have occurs := (occursIn_iff listed).2 ⟨mark, isMark, inside⟩
    rw [endless kind listed] at occurs
    cases occurs
  · intro free kind listed
    rw [← Bool.not_eq_true]
    intro occurs
    obtain ⟨mark, isMark, inside⟩ := (occursIn_iff listed).1 occurs
    exact free kind listed mark isMark inside

theorem Endless.of_infix (endless : Endless ignoreCase text) (inside : part <:+: text) :
    Endless ignoreCase part := by
  intro kind listed
  rw [← Bool.not_eq_true]
  intro occurs
  have outer := occursIn_of_infix listed inside occurs
  rw [endless kind listed] at outer
  cases outer

/-- Every end tag ends with a closing brace. -/
theorem Endless.concat {c : Char} (endless : Endless ignoreCase text) (other : c ≠ '}') :
    Endless ignoreCase (text ++ [c]) := by
  rw [endless_iff] at endless ⊢
  intro kind listed mark isMark inside
  have closing : ∀ kind ∈ regionEnds, ∀ mark ∈ endMarks kind, mark.getLast? = some '}' := by decide
  rw [List.map_append, List.map_singleton, List.infix_concat_iff] at inside
  -- A tag that was not there before would end with the new character.
  rcases inside with ⟨front, same⟩ | before
  · have last := congrArg List.getLast? same
    rw [List.getLast?_append, closing kind listed mark isMark, List.getLast?_concat,
      Option.some_or, Option.some.injEq] at last
    exact other (eq_of_letterOf (by decide) last.symm)
  · exact endless kind listed mark isMark before

/-- The opening of a comment begins no end tag. -/
theorem Endless.opening (endless : Endless ignoreCase ('*' :: text)) :
    Endless ignoreCase ('{' :: '*' :: text) := by
  rw [endless_iff] at endless ⊢
  intro kind listed mark isMark inside
  rw [List.map_cons, List.infix_cons_iff] at inside
  rcases inside with ⟨rest, same⟩ | within
  · have apart : ∀ kind ∈ regionEnds, ∀ mark ∈ endMarks kind,
        2 ≤ mark.length ∧ mark.take 2 ≠ ['{', '*'] := by decide
    obtain ⟨long, differs⟩ := apart kind listed mark isMark
    have first := congrArg (List.take 2) same
    rw [List.take_append_of_le_length long, List.map_cons, letterOf_symbol (by decide),
      letterOf_symbol (by decide)] at first
    exact differs first
  · exact endless kind listed mark isMark within

/-- The beginning of a comment is what dropped text begins with, whatever follows. -/
theorem classify?_comment (ignoreCase : Bool) (text : List Char) :
    ∃ found, classify? ignoreCase ('{' :: '*' :: text) = some found ∧ found.kind = .ignoreOpen := by
  have star : (fixed? ignoreCase ['{', '*'] ('{' :: '*' :: text)).isSome = true := by
    rw [fixed?_isSome_iff, List.map_cons, List.map_cons, List.map_cons, List.map_cons]
    exact ⟨text.map (letterOf ignoreCase), rfl⟩
  have opens : (TagKind.ignoreOpen.recognise? ignoreCase ('{' :: '*' :: text)).isSome = true := by
    show (Option.orElse (keyword? ignoreCase TagKind.ignoreOpen.name ('{' :: '*' :: text)) fun _ =>
      (fixed? ignoreCase ['{', '*'] ('{' :: '*' :: text)).map fun read =>
        [Segment.fixed read.1]).isSome = true
    cases keyword? ignoreCase TagKind.ignoreOpen.name ('{' :: '*' :: text) with
    | some segments => rfl
    | none => exact (Option.isSome_map ..).trans star
  have found : (TagKind.ignoreOpen.find? ignoreCase ('{' :: '*' :: text)).isSome = true := by
    rw [TagKind.find?, Option.isSome_map, findFirst?_isSome_iff]
    exact ⟨_, List.cons_ne_nil _ _, List.suffix_refl _, opens⟩
  obtain ⟨found, matched⟩ := Option.isSome_iff_exists.1 found
  refine ⟨found, ?_, TagKind.kind_find? matched⟩
  show List.findSome? _ (TagKind.ignoreOpen :: TagKind.ordinary.tail) = some found
  rw [List.findSome?_cons, matched]

/-- The end of a comment is no end of raw code. -/
theorem Endless.comment (endless : Endless ignoreCase text) :
    TagKind.rawCodeClose.occursIn ignoreCase (text ++ ['*', '}']) = false ∧
      TagKind.ignoreClose.occursIn ignoreCase (text ++ ['*', '}']) = true := by
  constructor
  · rw [← Bool.not_eq_true, occursIn_iff (by decide)]
    rintro ⟨mark, isMark, inside⟩
    obtain rfl := List.mem_singleton.1 isMark
    have shorter := endless_iff.1 (endless.concat (c := '*') (by decide)) .rawCodeClose (by decide)
      _ isMark
    rw [List.map_append, List.map_cons, List.map_singleton, letterOf_symbol (by decide),
      letterOf_symbol (by decide), List.append_cons, List.infix_concat_iff] at inside
    rcases inside with ⟨front, same⟩ | before
    · -- What stands before the brace would be a star and a letter.
      have last := congrArg (fun text => text.dropLast.getLast?) same
      simp [List.dropLast_append_of_ne_nil] at last
    · rw [List.map_append, List.map_singleton, letterOf_symbol (by decide)] at shorter
      exact shorter before
  · refine (occursIn_iff (by decide)).2 ⟨['*', '}'], .tail _ (.head _), ?_⟩
    rw [List.map_append, List.map_cons, List.map_singleton, letterOf_symbol (by decide),
      letterOf_symbol (by decide)]
    exact (List.suffix_append _ _).isInfix

end Stencil.Tag

namespace Stencil.Program

open Stencil.Tag

/-- A candidate without end tags is left to its own meaning. -/
theorem not_closesRegion_of_endless {options : Template.CompileOptions} {text : List Char}
    (endless : Endless options.caseInsensitiveTags text) : ¬ ClosesRegion options text := by
  rintro (ends | ends | ⟨-, ends⟩)
  · simp [endless .ignoreClose (by decide)] at ends
  · simp [endless .noParseClose (by decide)] at ends
  · simp [endless .rawCodeClose (by decide)] at ends

end Stencil.Program
