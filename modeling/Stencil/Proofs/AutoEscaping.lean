import Mathlib.Data.List.Infix
import Stencil.Proofs.EscapePolicy
import Stencil.Proofs.Outputs

/-! # What escaping leaves exposed

A variable of a printed value is exposed where no escape stands around it.  Where
escaping is on and no block turns it off, the values that are printed expose
nothing, except the assignments in ternaries and what constant tags hold.

* `Expr.exposed` — the code and the arguments with no escape around them;
* `hasVariable_mono` — a text has the variables of its parts;
* `exposed_composeModifiers` — modifiers expose parts of what is written;
* `exposed_resolve` — only assignments are left exposed;
* `compile_autoEscaping` — what a program exposes.
-/

namespace Stencil

/-- The code and the arguments of modifiers in an expression that no escape stands
    around. -/
def Expr.exposed : Expr → List (List Char)
  | .code text => [text]
  | .modifier _ target arguments => target.exposed ++ arguments.toList
  | .escape _ _ => []
  | .ternary condition ifTrue ifFalse => condition.exposed ++ ifTrue.exposed ++ ifFalse.exposed
  | .call _ => []
  | .callWith _ arguments => arguments.exposed

/-- A call of a function, with or without arguments. -/
def Expr.IsCall : Expr → Prop
  | .call _ => True
  | .callWith _ _ => True
  | _ => False

namespace Expr

open Stencil.Text

variable {part whole written name arguments : List Char} {previous : Option Char}
  {marked : List (Char × Bool)} {target : Expr}

/-! ## Variables in parts -/

theorem hasVariable_append_left (more : List Char) (references : hasVariable part = true) :
    hasVariable (part ++ more) = true := by
  induction part with
  | nil => cases references
  | cons c rest ih =>
    simp only [hasVariable, Bool.or_eq_true, Bool.and_eq_true, List.cons_append] at references ⊢
    refine references.imp (And.imp_right fun starts => ?_) ih
    cases rest with
    | nil => cases starts
    | cons d rest => exact starts

theorem hasVariable_append_right (front : List Char) (references : hasVariable part = true) :
    hasVariable (front ++ part) = true := by
  induction front with
  | nil => exact references
  | cons c front ih => simp [hasVariable, ih]

/-- A variable in a part of a text is one in the text. -/
theorem hasVariable_mono (inside : part <:+: whole) (references : hasVariable part = true) :
    hasVariable whole = true := by
  obtain ⟨front, back, rfl⟩ := inside
  exact hasVariable_append_left back (hasVariable_append_right front references)

/-! ## Modifiers -/

theorem isPrefix_trimEnd (text : List Char) : trimEnd text <+: text := by
  rw [← List.reverse_suffix, trimEnd, List.reverse_reverse]
  exact List.dropWhile_suffix isBlank

theorem isInfix_trim (text : List Char) : trim text <:+: text :=
  (isPrefix_trimEnd (trimStart text)).isInfix.trans (List.dropWhile_suffix isBlank).isInfix

/-- A chain is cut into parts of it, the first one at its beginning. -/
theorem isInfix_of_mem_chainPieces :
    (∀ piece ∈ (chainPieces previous marked).head?, piece <+: marked.map Prod.fst) ∧
      ∀ piece ∈ chainPieces previous marked, piece <:+: marked.map Prod.fst := by
  induction marked generalizing previous with
  | nil => simp [chainPieces]
  | cons marking rest ih =>
    obtain ⟨c, outside⟩ := marking
    obtain ⟨first, all⟩ := @ih (some c)
    have later {piece : List Char} (listed : piece ∈ chainPieces (some c) rest) :
        piece <:+: c :: rest.map Prod.fst :=
      (all piece listed).trans (List.suffix_cons c _).isInfix
    rw [chainPieces]
    split
    · refine ⟨by simp, fun piece listed => ?_⟩
      rcases List.mem_cons.1 listed with rfl | listed
      · exact List.nil_infix
      · exact later listed
    · cases pieces : chainPieces (some c) rest with
      | nil =>
        have begins : [c] <+: c :: rest.map Prod.fst := List.prefix_append [c] _
        simp [begins.isInfix]
      | cons piece others =>
        rw [pieces] at first later
        have begins : c :: piece <+: c :: rest.map Prod.fst :=
          List.cons_prefix_cons.2 ⟨rfl, first piece rfl⟩
        refine ⟨by simpa using begins, fun other listed => ?_⟩
        rcases List.mem_cons.1 listed with rfl | listed
        · exact begins.isInfix
        · exact later (List.mem_cons_of_mem piece listed)

theorem isInfix_of_parseModifier (taken : (parseModifier written).2 = some arguments) :
    arguments <:+: written := by
  unfold parseModifier at taken
  dsimp only at taken
  split at taken
  · rename_i split
    obtain rfl := Option.some.inj taken
    exact (splitColon?_suffix split).isInfix.trans (isInfix_trim written)
  · cases taken

/-- Modifiers expose their arguments. -/
theorem exposed_foldl_applyModifier {modifiers : List (List Char)}
    (inside : part ∈ (modifiers.foldl applyModifier target).exposed) :
    part ∈ target.exposed ∨ ∃ written ∈ modifiers, (parseModifier written).2 = some part := by
  induction modifiers generalizing target with
  | nil => exact .inl inside
  | cons written modifiers ih =>
    rcases ih inside with first | ⟨other, listed, taken⟩
    · have exposed : (applyModifier target written).exposed =
          target.exposed ++ (parseModifier written).2.toList := rfl
      rw [exposed, List.mem_append, Option.mem_toList] at first
      exact first.imp_right fun taken => ⟨written, List.mem_cons_self, taken⟩
    · exact .inr ⟨other, List.mem_cons_of_mem written listed, taken⟩

/-- What a chain of modifiers exposes stands in what is written. -/
theorem exposed_composeModifiers (inside : part ∈ (composeModifiers whole).exposed) :
    part <:+: whole := by
  unfold composeModifiers at inside
  split at inside
  · obtain rfl := List.mem_singleton.1 inside
    exact List.infix_rfl
  · rename_i base modifiers split
    have pieces {piece : List Char} (listed : piece ∈ base :: modifiers) : piece <:+: whole := by
      unfold splitChain? at split
      dsimp only at split
      split at split
      · cases split
      · split at split
        · rename_i chain
          cases split
          have stands := (isInfix_of_mem_chainPieces).2 piece (by rw [chain]; exact listed)
          rwa [mark, map_fst_markFrom] at stands
        · cases split
    rcases exposed_foldl_applyModifier inside with first | ⟨written, listed, taken⟩
    · obtain rfl := List.mem_singleton.1 first
      exact (isPrefix_trimEnd base).isInfix.trans (pieces List.mem_cons_self)
    · exact (isInfix_of_parseModifier taken).trans (pieces (List.mem_cons_of_mem base listed))

/-! ## Resolved expressions -/

/-- Where values are escaped, only an assignment exposes a variable: it stays as it is. -/
theorem exposed_resolve {level : Nat} {charset : List Char}
    (inside : part ∈ (resolve whole level (some charset)).expr.exposed)
    (references : hasVariable part = true) :
    (resolve whole level none).isAssignment = true ∧
      (resolve whole level (some charset)).expr = (resolve whole level none).expr := by
  unfold resolve at inside ⊢
  dsimp only at inside ⊢
  split at inside
  · rename_i found
    rw [if_pos found, if_pos found]
    dsimp only at inside ⊢
    split at inside
    · rename_i assigns
      exact ⟨assigns, if_pos assigns⟩
    · cases inside
  · rename_i plain
    -- Text without variables stays as it is.
    obtain rfl := List.mem_singleton.1 inside
    exact absurd references plain

end Expr

end Stencil

namespace Stencil.Program

open Stencil.Expr (hasVariable hasVariable_mono resolve exposed_resolve
  exposed_composeModifiers)
open Stencil.Tag
open Stencil.Template

variable {compiler : Compiler} {state : State} {tags : List EscapeTag} {blocks : List Bool}
  {found : TagMatch} {expr : Expr} {text : List Char}

/-! ## Where escaping is on -/

/-- Tags of which none turns escaping off leave no block open that does. -/
theorem foldl_track_escapes (escaping : ∀ mode, .opens mode ∈ tags → escapes mode = true)
    (before : ∀ block ∈ blocks, block = true) :
    ∀ block ∈ tags.foldl EscapeTag.track blocks, block = true := by
  induction tags generalizing blocks with
  | nil => exact before
  | cons tag tags ih =>
    refine ih (fun mode listed => escaping mode (List.mem_cons_of_mem tag listed)) ?_
    cases tag with
    | opens mode =>
      intro block listed
      rcases List.mem_cons.1 listed with rfl | listed
      · exact escaping mode List.mem_cons_self
      · exact before block listed
    | closes => exact fun block listed => before block (List.mem_of_mem_tail listed)

theorem charset?_of_escapes (auto : compiler.options.autoEscape = true)
    (escaping : ∀ block ∈ state.escapes, block = true) :
    compiler.charset? state = some compiler.options.charset := by
  have on : state.escapes.head?.getD compiler.options.autoEscape = true := by
    cases blocks : state.escapes with
    | nil => exact auto
    | cons block outer => exact escaping block (by rw [blocks]; exact List.mem_cons_self)
  rw [Compiler.charset?, if_pos on]

/-- How a value that a tag prints can have a variable that is not escaped: the parts of a
    ternary that expose it are assignments, or it stands in a constant. -/
inductive Exposes (level : Nat) (found : TagMatch) (expr : Expr) (text : List Char) : Prop where
  | assignments {parts : Nat → Expr} (kind : found.kind = .ternary)
      (whole : expr = .ternary (parts 1) (parts 2) (parts 3))
      (only : ∀ index ∈ [1, 2, 3], text ∈ (parts index).exposed →
        (resolve (found.argument index) level none).isAssignment = true ∧
          parts index = (resolve (found.argument index) level none).expr)
  | constant (kind : found.kind = .constantTag) (inside : text <:+: constantText found.whole)
      (references : hasVariable (constantText found.whole) = true)

/-- What a tag leaves exposed where values are escaped. -/
theorem exposes_of_printed (printed : Printed compiler state found expr)
    (escaping : compiler.charset? state = some compiler.options.charset) (value : ¬ expr.IsCall)
    (inside : text ∈ expr.exposed) (references : hasVariable text = true) :
    Exposes state.loops.length found expr text := by
  cases printed with
  | call | callWith => exact absurd trivial value
  | ternary kind resolved =>
    refine .assignments kind rfl fun index _ here => ?_
    rw [resolved, escaping] at here ⊢
    exact exposed_resolve here references
  | variableTag kind isOutput =>
    rw [escaping] at inside
    obtain ⟨assigns, -⟩ := exposed_resolve inside references
    rw [isOutput_resolve, Expr.Resolved.isOutput, assigns] at isOutput
    simp at isOutput
  | constantTag kind =>
    have within := exposed_composeModifiers inside
    exact .constant kind within (hasVariable_mono within references)

/-- Where values are escaped by default and no block turns that off, a variable that a
    printed value exposes stands in an assignment of a ternary or in a constant. -/
theorem compile_autoEscaping (compiler : Compiler) (source : List Char) (origin : Origin)
    (program : Program) (auto : compiler.options.autoEscape = true)
    (compiled : (compiler.compile source origin).result = .ok program)
    (escaping : ∀ mode, .opens mode ∈ escapeTags compiler.options (compiler.tokens source) →
      escapes mode = true)
    (front back : List Instruction) (expr : Expr)
    (prints : program.instructions = front ++ .output expr :: back) (value : ¬ expr.IsCall)
    (text : List Char) (inside : text ∈ expr.exposed) (references : hasVariable text = true) :
    ∃ before token after state found, compiler.tokens source = before ++ token :: after ∧
      compiler.reaches source origin before = .ok (state, front) ∧
      IsActive compiler.options (regionAt compiler.options .markup before) token ∧
      classify? compiler.options.caseInsensitiveTags token.text = some found ∧
      Printed compiler state found expr ∧ Exposes state.loops.length found expr text := by
  obtain ⟨final, ran, -⟩ := compile_ok_iff.1 compiled
  obtain ⟨before, token, after, state, found, split, reached, active, classified, printed⟩ :=
    exists_tag_of_output ran prints
  have region := (@run_region _ _ _ {} _ _ _ (permitted_markup _) reached).1
  have kept := @run_escapes _ _ _ {} _ _ _ (permitted_markup _) reached
  have on : ∀ block ∈ state.escapes, block = true := by
    rw [kept]
    refine foldl_track_escapes (fun mode listed => escaping mode ?_) (by simp)
    rw [escapeTags, split, activeFrom_append, List.filterMap_append]
    exact List.mem_append_left _ listed
  rw [region] at active
  exact ⟨before, token, after, state, found, split, reached, active, classified, printed,
    exposes_of_printed printed (charset?_of_escapes auto on) value inside references⟩

/-- A condition that assigns is not escaped; the branch behind it is. -/
theorem compile_autoEscaping_condition :
    let compiler : Compiler := ⟨{ autoEscape := true }, .empty⟩
    let source := "\x7b$a=$b?$c:\"n\"\x7d".toList
    let expr : Expr := .ternary (.code "$a=$b".toList)
      (.escape (.code "$c".toList) "UTF-8".toList) (.code "\"n\"".toList)
    let program : Program := ⟨[.output expr]⟩
    let text := "$a=$b".toList
    compiler.options.autoEscape = true ∧
    (compiler.compile source (.file [] [])).result = .ok program ∧
    (∀ mode, .opens mode ∈ escapeTags compiler.options (compiler.tokens source) →
      escapes mode = true) ∧
    program.instructions = [] ++ .output expr :: [] ∧ ¬ expr.IsCall ∧ text ∈ expr.exposed ∧
    hasVariable text = true ∧
    ∃ before token after state found, compiler.tokens source = before ++ token :: after ∧
      compiler.reaches source (.file [] []) before = .ok (state, []) ∧
      IsActive compiler.options (regionAt compiler.options .markup before) token ∧
      classify? compiler.options.caseInsensitiveTags token.text = some found ∧
      Printed compiler state found expr ∧ Exposes state.loops.length found expr text := by
  intro compiler source expr program text
  have compiled : (compiler.compile source (.file [] [])).result = .ok program := by
    decide +kernel
  have noTag : escapeTags compiler.options (compiler.tokens source) = [] := by decide +kernel
  have escaping (mode : List Char)
      (listed : .opens mode ∈ escapeTags compiler.options (compiler.tokens source)) :
      escapes mode = true := by
    rw [noTag] at listed
    cases listed
  have inside : text ∈ expr.exposed := List.mem_cons_self
  have references : hasVariable text = true := by decide
  exact ⟨rfl, compiled, escaping, rfl, id, inside, references,
    compile_autoEscaping _ _ _ _ rfl compiled escaping [] [] expr rfl id _ inside references⟩

/-- Not every variable in a printed value is escaped where no block stands: a condition
    that assigns stays as it is. -/
theorem compile_not_covered :
    ¬ ∀ (compiler : Compiler) (source : List Char) (origin : Origin) (program : Program),
      compiler.options.autoEscape = true →
      (compiler.compile source origin).result = .ok program →
      escapeTags compiler.options (compiler.tokens source) = [] →
      ∀ expr, .output expr ∈ program.instructions → ¬ expr.IsCall →
        ∀ text ∈ expr.exposed, hasVariable text = false := by
  intro covered
  let compiler : Compiler := ⟨{ autoEscape := true }, .empty⟩
  let source := "\x7b$a=$b?\"y\":\"n\"\x7d".toList
  let expr : Expr := .ternary (.code "$a=$b".toList) (.code "\"y\"".toList)
    (.code "\"n\"".toList)
  have compiled : (compiler.compile source (.file [] [])).result = .ok ⟨[.output expr]⟩ := by
    decide +kernel
  have noTag : escapeTags compiler.options (compiler.tokens source) = [] := by decide +kernel
  have plain := covered compiler source (.file [] []) ⟨[.output expr]⟩ rfl compiled noTag expr
    List.mem_cons_self id "$a=$b".toList List.mem_cons_self
  exact absurd plain (by decide)

end Stencil.Program
