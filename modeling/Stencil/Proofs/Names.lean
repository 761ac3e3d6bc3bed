import Mathlib.Data.List.Find
import Mathlib.Data.List.TakeWhile
import Stencil.Expr.Resolve

/-! # Names in expressions

An expression that is nothing but a variable stays as it is, except that the names
that stand for what a loop binds are numbered by the depth.

* `IsIdentifier` — names as templates write them;
* `renamewise` — induction along the renaming of placeholders;
* `renameBindings_variable` — which variables are numbered;
* `resolve_variable` — what a variable becomes.
-/

namespace Stencil.Expr

open Stencil.Text

/-! ## Names -/

/-- What holds of listed characters is checked for one after the other.  Deciding the
    statement itself would go through every character there is. -/
theorem forall_listed {p : Char → Prop} [DecidablePred p] {listed : List Char}
    (each : (listed.all fun c => p c) = true) : ∀ c ∈ listed, p c :=
  fun c inside => of_decide_eq_true (List.all_eq_true.1 each c inside)

/-- A name as templates write it: a letter or an underscore, followed by letters,
    digits and underscores. -/
def IsIdentifier (name : List Char) : Prop :=
  startsName name = true ∧ ∀ c ∈ name, isNameChar c = true

instance (name : List Char) : Decidable (IsIdentifier name) :=
  @instDecidableAnd _ _ _ (List.decidableBAll _ name)

/-- The name that a reference has inside loops: the names that stand for what a
    loop binds are numbered. -/
def numbered (level : Nat) (name : List Char) : List Char :=
  if name ∈ bindingNames ∧ level ≠ 0 then name ++ decimal level else name

section Names

variable {name : List Char} {level : Nat}

theorem IsIdentifier.ne_nil (identifier : IsIdentifier name) : name ≠ [] := by
  rintro rfl
  cases identifier.1

/-- What is no character of a name is in none. -/
theorem IsIdentifier.not_mem (identifier : IsIdentifier name) {c : Char}
    (other : isNameChar c = false) : c ∉ name := by
  intro inside
  have char := identifier.2 c inside
  rw [other] at char
  cases char

theorem isDigit_of_mem_decimal {c : Char} (inside : c ∈ decimal level) : c.isDigit = true :=
  Nat.isDigit_of_mem_toDigits (by decide) (by decide) inside

theorem isNameChar_of_mem_decimal {c : Char} (inside : c ∈ decimal level) :
    isNameChar c = true := by
  simp [isNameChar, Char.isAlphanum, isDigit_of_mem_decimal inside]

theorem isWord_of_isNameChar {c : Char} (char : isNameChar c = true) : isWord c = true := by
  rw [isWord, if_pos (toNat_lt_of_isNameChar char)]
  exact char

theorem IsIdentifier.numbered (identifier : IsIdentifier name) (level : Nat) :
    IsIdentifier (numbered level name) := by
  unfold Expr.numbered
  split
  · refine ⟨?_, ?_⟩
    · cases name with
      | nil => cases identifier.1
      | cons c rest => exact identifier.1
    · intro c inside
      rcases List.mem_append.1 inside with before | digit
      · exact identifier.2 c before
      · exact isNameChar_of_mem_decimal digit
  · exact identifier

/-- A run of characters at the start of a text ends where another one stands. -/
theorem takeWhile_append_of_ends {p : Char → Bool} {after : List Char}
    (chars : ∀ c ∈ name, p c = true) (ends : ∀ c ∈ after.head?, p c = false) :
    (name ++ after).takeWhile p = name := by
  rw [List.takeWhile_append_of_pos chars]
  cases after with
  | nil => simp
  | cons c after => simp [ends c rfl]

theorem dropWhile_append_of_ends {p : Char → Bool} {after : List Char}
    (chars : ∀ c ∈ name, p c = true) (ends : ∀ c ∈ after.head?, p c = false) :
    (name ++ after).dropWhile p = after := by
  rw [List.dropWhile_append_of_pos chars]
  cases after with
  | nil => rfl
  | cons c after => simp [ends c rfl]

theorem isIdentifier_of_mem_bindingNames (listed : name ∈ bindingNames) : IsIdentifier name := by
  have all : ∀ name ∈ bindingNames, IsIdentifier name := by decide
  exact all name listed

theorem isWord_of_mem_bindingNames (listed : name ∈ bindingNames) :
    ∀ c ∈ name, isWord c = true :=
  fun c inside => isWord_of_isNameChar ((isIdentifier_of_mem_bindingNames listed).2 c inside)

/-- A placeholder with a level behind it is a word, too. -/
theorem isWord_append_decimal (listed : name ∈ bindingNames) (level : Nat) :
    ∀ c ∈ name ++ decimal level, isWord c = true := by
  intro c inside
  rcases List.mem_append.1 inside with inName | digit
  · exact isWord_of_mem_bindingNames listed c inName
  · exact isWord_of_isNameChar (isNameChar_of_mem_decimal digit)

/-- A placeholder is a whole word that is one of the binding names, not one that only
    begins with one. -/
theorem bindingAt?_eq (text : List Char) :
    bindingAt? text =
      if text.takeWhile isWord ∈ bindingNames then some (text.takeWhile isWord) else none := by
  have whole : bindingAt? text =
      bindingNames.find? fun candidate => decide (candidate = text.takeWhile isWord) := by
    refine List.find?_congr fun candidate listed => ?_
    have chars := isWord_of_mem_bindingNames listed
    cases stripped : stripStart? candidate text with
    | none =>
      have other : candidate ≠ text.takeWhile isWord := by
        intro same
        have split : candidate ++ text.dropWhile isWord = text := by
          rw [same, List.takeWhile_append_dropWhile]
        cases stripped.symm.trans (isPrefixOf?_eq_some_iff.2 split)
      simp [other]
    | some rest =>
      obtain rfl : candidate ++ rest = text := isPrefixOf?_eq_some_iff.1 stripped
      cases rest with
      | nil => simp [List.takeWhile_eq_self_iff.2 chars]
      | cons c rest =>
        by_cases word : isWord c = true
        · simp [List.takeWhile_append_of_pos chars, word]
        · have ends : ∀ d ∈ (c :: rest).head?, isWord d = false := by simpa using word
          simp [takeWhile_append_of_ends chars ends, word]
  rw [whole]
  by_cases listed : text.takeWhile isWord ∈ bindingNames
  · rw [if_pos listed]
    cases found : bindingNames.find? fun candidate => decide (candidate = text.takeWhile isWord) with
    | none => simpa using List.find?_eq_none.1 found _ listed
    | some candidate => simpa using List.find?_some found
  · rw [if_neg listed, List.find?_eq_none]
    intro candidate isName same
    apply listed
    rwa [← of_decide_eq_true same]

/-- A placeholder is copied with the suffix behind it. -/
theorem renameFrom_name (suffix : List Char) (filled : name ≠ []) (rest : List Char) :
    renameFrom suffix name.length (name ++ rest) = name ++ suffix ++ renameFrom suffix 0 rest := by
  induction name with
  | nil => exact absurd rfl filled
  | cons c name ih =>
    cases name with
    | nil => simp [renameFrom]
    | cons d name =>
      have later := ih (List.cons_ne_nil d name)
      simp only [List.length_cons, List.cons_append] at later ⊢
      rw [renameFrom, later]

/-- The word behind a sigil gets the suffix if it is a placeholder. -/
theorem renameFrom_sigil (suffix text : List Char) :
    renameFrom suffix 0 ('$' :: text) =
      if text.takeWhile isWord ∈ bindingNames then
        '$' :: (text.takeWhile isWord ++ suffix ++ renameFrom suffix 0 (text.dropWhile isWord))
      else '$' :: renameFrom suffix 0 text := by
  rw [renameFrom, if_pos rfl, bindingAt?_eq]
  by_cases listed : text.takeWhile isWord ∈ bindingNames
  · have filled := (isIdentifier_of_mem_bindingNames listed).ne_nil
    have passed := renameFrom_name suffix filled (text.dropWhile isWord)
    rw [List.takeWhile_append_dropWhile] at passed
    simp only [if_pos listed, passed]
  · simp only [if_neg listed]

/-- Induction along the renaming: a placeholder is passed as a whole, and any other
    character alone. -/
theorem renamewise {suffix : List Char} {motive : List Char → List Char → Prop}
    (ended : motive [] [])
    (placeholder : ∀ name ∈ bindingNames, ∀ after, (∀ c ∈ after.head?, isWord c = false) →
      motive after (renameFrom suffix 0 after) →
        motive ('$' :: (name ++ after)) ('$' :: (name ++ suffix ++ renameFrom suffix 0 after)))
    (other : ∀ c rest, (c = '$' → rest.takeWhile isWord ∉ bindingNames) →
      motive rest (renameFrom suffix 0 rest) → motive (c :: rest) (c :: renameFrom suffix 0 rest))
    (text : List Char) : motive text (renameFrom suffix 0 text) := by
  induction length : text.length using Nat.strong_induction_on generalizing text with
  | _ _ ih =>
    subst length
    cases text with
    | nil => exact ended
    | cons c rest =>
      have later := ih rest.length (Nat.lt_succ_self _) rest rfl
      by_cases sigil : c = '$'
      · subst sigil
        rw [renameFrom_sigil]
        by_cases listed : rest.takeWhile isWord ∈ bindingNames
        · have shorter : (rest.dropWhile isWord).length ≤ rest.length :=
            (List.dropWhile_suffix isWord).length_le
          have stops := List.head?_dropWhile_not isWord rest
          have passed := placeholder _ listed (rest.dropWhile isWord)
            (fun c first => by rwa [first] at stops)
            (ih _ (Nat.lt_succ_of_le shorter) _ rfl)
          rw [List.takeWhile_append_dropWhile] at passed
          rwa [if_pos listed]
        · rw [if_neg listed]
          exact other '$' rest (fun _ => listed) later
      · rw [renameFrom, if_neg sigil]
        exact other c rest (fun same => absurd same sigil) later

/-- Text without variables has no placeholders. -/
theorem renameFrom_of_not_mem (suffix : List Char) {text : List Char} (plain : '$' ∉ text) :
    renameFrom suffix 0 text = text := by
  induction text with
  | nil => rfl
  | cons c rest ih =>
    rw [List.mem_cons, not_or] at plain
    have other : c ≠ '$' := fun same => plain.1 same.symm
    simp [renameFrom, other, ih plain.2]

/-- A reference is numbered if it is a placeholder, in front of text without others. -/
theorem renameBindings_append (identifier : IsIdentifier name) {rest : List Char}
    (ends : ∀ c ∈ rest.head?, isWord c = false) (plain : '$' ∉ rest) (level : Nat) :
    renameBindings level ('$' :: (name ++ rest)) = '$' :: (numbered level name ++ rest) := by
  have chars (c : Char) (inside : c ∈ name) : isWord c = true :=
    isWord_of_isNameChar (identifier.2 c inside)
  unfold renameBindings numbered
  by_cases outside : level = 0
  · simp [outside]
  · rw [if_neg outside, renameFrom_sigil, takeWhile_append_of_ends chars ends,
      dropWhile_append_of_ends chars ends]
    by_cases listed : name ∈ bindingNames
    · simp [listed, outside, renameFrom_of_not_mem _ plain]
    · have all : '$' ∉ name ++ rest := by
        simpa using ⟨identifier.not_mem rfl, plain⟩
      simp [listed, renameFrom_of_not_mem _ all]

theorem renameBindings_variable (identifier : IsIdentifier name) (level : Nat) :
    renameBindings level ('$' :: name) = '$' :: numbered level name := by
  have whole : renameBindings level ('$' :: (name ++ [])) = '$' :: (numbered level name ++ []) :=
    renameBindings_append identifier (by simp) (by simp) level
  rwa [List.append_nil, List.append_nil] at whole

/-! ## Variables -/

/-- Without an equals sign nothing is assigned. -/
theorem assigns_of_not_mem {previous : Option Char} {state : Quoting} {text : List Char}
    (plain : '=' ∉ text) : assigns previous (markFrom state text) = false := by
  induction text generalizing previous state with
  | nil => rfl
  | cons c rest ih =>
    rw [List.mem_cons, not_or] at plain
    have other : c ≠ '=' := fun same => plain.1 same.symm
    simp [markFrom, assigns, other, ih plain.2]

/-- Without a pipe there are no modifiers. -/
theorem composeModifiers_of_not_mem {text : List Char} (plain : '|' ∉ text) :
    composeModifiers text = .code text := by
  have noChain (state : Quoting) : startsWithOr (markFrom state text) = true := by
    induction text generalizing state with
    | nil => rfl
    | cons c rest ih =>
      rw [List.mem_cons, not_or] at plain
      have other : c ≠ '|' := fun same => plain.1 same.symm
      simp [markFrom, startsWithOr, other, ih plain.2]
  simp [composeModifiers, splitChain?, mark, noChain]

theorem quoteSubscripts_variable (identifier : IsIdentifier name) :
    quoteSubscripts ('$' :: name) = '$' :: name := by
  have taken : name.takeWhile isNameChar = name := List.takeWhile_eq_self_iff.2 identifier.2
  have dropped : name.dropWhile isNameChar = [] := List.dropWhile_eq_nil_iff.2 identifier.2
  have noQuote : Template.isQuote '$' = false := rfl
  rw [quoteSubscripts, quoteFrom]
  simp [noQuote, identifier.1, taken, dropped, quoteFrom]

/-- A variable is a value, of the name that it is given at the level. -/
theorem resolve_variable (identifier : IsIdentifier name) (level : Nat)
    (charset? : Option (List Char)) :
    resolve ('$' :: name) level charset? =
      let code : Expr := .code ('$' :: numbered level name)
      ⟨match charset? with
        | some charset => .escape code charset
        | none => code, true, false⟩ := by
  have named := identifier.numbered level
  have noEquals : '=' ∉ '$' :: Expr.numbered level name :=
    List.not_mem_cons_of_ne_of_not_mem (by decide) (named.not_mem rfl)
  have noPipe : '|' ∉ '$' :: Expr.numbered level name :=
    List.not_mem_cons_of_ne_of_not_mem (by decide) (named.not_mem rfl)
  have references : hasVariable ('$' :: Expr.numbered level name) = true := by
    simp [hasVariable, named.1]
  have value : isAssignment ('$' :: Expr.numbered level name) = false :=
    assigns_of_not_mem noEquals
  unfold resolve
  rw [renameBindings_variable identifier, if_pos references]
  cases charset? <;>
    simp only [quoteSubscripts_variable named, value, composeModifiers_of_not_mem noPipe,
      Bool.false_eq_true, if_false]

end Names

end Stencil.Expr
