import Stencil.Proofs.References
import Stencil.Proofs.Regions

/-! # What assigns

An expression assigns when an equals sign stands in it outside of strings and is no part
of a longer operator.  The compiler looks for such a sign in the host code that it resolves
an expression to.  Resolving respells the operands only, and what stands next to the equals
signs stays as it is, so one is found there exactly if one is written.

* `Assigns` — the texts that assign, and `isAssignment_iff`, by which they are found;
* `Respelled` — texts that differ in their operands only;
* `Respelled.isAssignment_eq` — such texts assign both or neither;
* `respelled_renameBindings`, `respelled_output` — the two steps that respell;
* `resolve_isOutput_iff` — which expressions are printed;
* `reaches_variableTag` — which variable tags print.
-/

namespace Stencil.Expr

open Stencil.Template (isQuote)
open Stencil.Text

variable {state : Quoting} {previous other : Option Char} {c : Char}
  {text before after left right name : List Char}

/-! ## Equals signs -/

/-- The longer operators that an equals sign can be part of. -/
def equalityOperators : List (List Char) :=
  ["==".toList, "===".toList, "!=".toList, "<=".toList, ">=".toList, "=>".toList]

/-- The equals sign between two texts is part of a longer operator. -/
def InOperator (before after : List Char) : Prop :=
  ∃ left right, left ++ '=' :: right ∈ equalityOperators ∧ left <:+ before ∧ right <+: after

/-- An equals sign stands in the text outside of strings that is no part of a longer
    operator. -/
def Assigns (text : List Char) : Prop :=
  ∃ before after, text = before ++ '=' :: after ∧ Quoting.outside.after before = .outside ∧
    ¬ InOperator before after

/-- Whether an equals sign behind the character is part of an operator. -/
def comparesLeft (previous : Option Char) : Bool := previous.any ['=', '!', '<', '>'].contains

/-- Whether an equals sign in front of the text is part of an operator. -/
def comparesRight (text : List Char) : Bool := text.head?.any ['=', '>'].contains

theorem comparesLeft_iff :
    comparesLeft previous = true ↔ ∃ c ∈ previous, c ∈ ['=', '!', '<', '>'] := by
  cases previous <;> simp [comparesLeft]

theorem comparesRight_iff : comparesRight text = true ↔ ∃ c ∈ text.head?, c ∈ ['=', '>'] := by
  cases text <;> simp [comparesRight]

/-- One character on each side tells whether an equals sign is part of an operator. -/
theorem inOperator_iff :
    InOperator before after ↔ comparesLeft before.getLast? = true ∨ comparesRight after = true := by
  constructor
  · rintro ⟨left, right, listed, ⟨front, rfl⟩, ⟨back, rfl⟩⟩
    -- An equals sign can be any character of an operator, so every place in each is asked.
    have sides : ∀ operator ∈ equalityOperators, ∀ place < operator.length,
        operator[place]? = some '=' →
          comparesLeft (operator.take place).getLast? = true ∨
            comparesRight (operator.drop (place + 1)) = true := by decide
    have side := sides _ listed left.length (by simp) (by simp)
    rw [List.take_left, ← List.drop_drop, List.drop_left, List.drop_one, List.tail_cons] at side
    simp only [comparesLeft_iff, comparesRight_iff] at side ⊢
    rcases side with ⟨c, last, compares⟩ | ⟨c, first, compares⟩
    · exact .inl ⟨c, List.mem_getLast?_append_of_mem_getLast? last, compares⟩
    · exact .inr ⟨c, List.mem_head?_append_of_mem_head? first, compares⟩
  · have onLeft : ∀ c ∈ ['=', '!', '<', '>'], [c, '='] ∈ equalityOperators :=
      forall_listed (by decide)
    have onRight : ∀ c ∈ ['=', '>'], ['=', c] ∈ equalityOperators := forall_listed (by decide)
    rw [comparesLeft_iff, comparesRight_iff]
    rintro (⟨c, last, compares⟩ | ⟨c, first, compares⟩)
    · obtain ⟨front, rfl⟩ := List.getLast?_eq_some_iff.1 last
      exact ⟨[c], [], onLeft c compares, List.suffix_append front [c], List.nil_prefix⟩
    · obtain ⟨rest, rfl⟩ := List.head?_eq_some_iff.1 first
      exact ⟨[], [c], onRight c compares, List.nil_suffix, List.prefix_append [c] rest⟩

/-- Whether an equals sign assigns shows at the characters around it. -/
theorem assigns_cons (rest : List Char) :
    assigns previous (markFrom state (c :: rest)) =
      ((c == '=' && state == .outside && !comparesLeft previous && !comparesRight rest) ||
        assigns (some c) (markFrom (state.next c) rest)) := by
  have next : (markFrom (state.next c) rest).head?.map Prod.fst = rest.head? := by
    rw [← List.head?_map, map_fst_markFrom]
  have left : (previous.map ['=', '!', '<', '>'].contains).getD false = comparesLeft previous := by
    cases previous <;> rfl
  have right : ((markFrom (state.next c) rest).head?.map fun next =>
      ['=', '>'].contains next.1).getD false = comparesRight rest := by
    rw [comparesRight, ← next]
    cases (markFrom (state.next c) rest).head? <;> rfl
  have unquoted : (c == '=' && (state == .outside && !isQuote c)) =
      (c == '=' && state == .outside) := by
    by_cases equals : c = '='
    · simp [equals, isQuote]
    · rw [beq_eq_false_iff_ne.2 equals, Bool.false_and, Bool.false_and]
  rw [markFrom, assigns, left, right, unquoted]

/-- The scanner finds the equals signs that assign. -/
theorem isAssignment_iff : isAssignment text = true ↔ Assigns text := by
  -- The scanner is followed from where it stands behind the text in front.
  have follow (front rest : List Char) :
      assigns front.getLast? (markFrom (Quoting.outside.after front) rest) = true ↔
        ∃ before after, rest = before ++ '=' :: after ∧
          Quoting.outside.after (front ++ before) = .outside ∧ ¬ InOperator (front ++ before) after := by
    induction rest generalizing front with
    | nil => simp [markFrom, assigns]
    | cons c rest ih =>
      have later := ih (front ++ [c])
      simp only [Quoting.after_append, Quoting.after_cons, Quoting.after_nil,
        List.getLast?_concat] at later
      rw [assigns_cons, Bool.or_eq_true, later]
      constructor
      · rintro (here | ⟨before, after, rfl, outside, assigns⟩)
        · simp only [Bool.and_eq_true, beq_iff_eq, Bool.not_eq_true'] at here
          obtain ⟨⟨⟨rfl, outside⟩, noLeft⟩, noRight⟩ := here
          refine ⟨[], rest, rfl, by simpa using outside, ?_⟩
          rw [List.append_nil, inOperator_iff, noLeft, noRight]
          simp
        · refine ⟨c :: before, after, rfl, by simpa using outside, by simpa using assigns⟩
      · rintro ⟨before, after, split, outside, assigns⟩
        cases before with
        | nil =>
          obtain ⟨rfl, rfl⟩ := List.cons.inj split
          rw [List.append_nil] at outside assigns
          rw [inOperator_iff, not_or] at assigns
          exact .inl (by simp [outside, assigns.1, assigns.2])
        | cons d before =>
          obtain ⟨rfl, rfl⟩ := List.cons.inj split
          exact .inr ⟨before, after, rfl, by simpa using outside, by simpa using assigns⟩
  exact follow [] text

instance (text : List Char) : Decidable (Assigns text) := decidable_of_iff _ isAssignment_iff

example : Assigns "$a = '=='".toList ∧ ¬ Assigns "$a <= $b => '='".toList := by decide

/-! ## Respelled operands -/

/-- A stretch of text that no operator with an equals sign reaches into. -/
def IsOperand (text : List Char) : Prop := text ≠ [] ∧ ∀ c ∈ text, c ∉ ['=', '!', '<', '>']

/-- The second text is the first one with other operands; the scanner of strings stands at
    the same place behind both. -/
inductive Respelled : Quoting → List Char → List Char → Prop where
  | nil {state : Quoting} : Respelled state [] []
  | same {state : Quoting} {c : Char} {old new : List Char}
      (later : Respelled (state.next c) old new) : Respelled state (c :: old) (c :: new)
  | operand {state : Quoting} {part other old new : List Char}
      (written : IsOperand part) (respelled : IsOperand other)
      (stays : state.after part = state.after other)
      (later : Respelled (state.after part) old new) :
      Respelled state (part ++ old) (other ++ new)

variable {part old new : List Char}

theorem Respelled.refl (text : List Char) : Respelled state text text := by
  induction text generalizing state with
  | nil => exact .nil
  | cons c rest ih => exact .same ih

theorem Respelled.append_left (respelled : Respelled (state.after part) old new) :
    Respelled state (part ++ old) (part ++ new) := by
  induction part generalizing state with
  | nil => exact respelled
  | cons c part ih => exact .same (ih respelled)

theorem IsOperand.comparesRight_append (operand : IsOperand part) (rest : List Char) :
    comparesRight (part ++ rest) = false := by
  obtain ⟨c, others, rfl⟩ := List.exists_cons_of_ne_nil operand.1
  have other := operand.2 c (.head _)
  rw [← Bool.not_eq_true, comparesRight_iff]
  rintro ⟨d, ⟨⟩, compares⟩
  have wider : ['=', '>'] ⊆ ['=', '!', '<', '>'] := by simp
  exact other (wider compares)

theorem Respelled.comparesRight_eq (respelled : Respelled state old new) :
    comparesRight old = comparesRight new := by
  cases respelled with
  | nil => rfl
  | same later => rfl
  | operand written respelled =>
    rw [written.comparesRight_append, respelled.comparesRight_append]

/-- Over an operand the scanner finds nothing, and it leaves nothing behind that an equals
    sign could belong to. -/
theorem IsOperand.assigns_append (operand : IsOperand part) (rest : List Char) :
    ∃ last, comparesLeft (some last) = false ∧
      assigns previous (markFrom state (part ++ rest)) =
        assigns (some last) (markFrom (state.after part) rest) := by
  obtain ⟨filled, plain⟩ := operand
  induction part generalizing state previous with
  | nil => exact absurd rfl filled
  | cons c part ih =>
    have other := plain c (.head _)
    have notEquals : (c == '=') = false := by
      rw [beq_eq_false_iff_ne]
      rintro rfl
      exact other (.head _)
    have here : assigns previous (markFrom state (c :: (part ++ rest))) =
        assigns (some c) (markFrom (state.next c) (part ++ rest)) := by
      rw [assigns_cons, notEquals, Bool.false_and, Bool.false_and, Bool.false_and, Bool.false_or]
    rw [List.cons_append, here, Quoting.after_cons]
    cases part with
    | nil =>
      refine ⟨c, ?_, rfl⟩
      rw [← Bool.not_eq_true, comparesLeft_iff]
      rintro ⟨d, ⟨⟩, compares⟩
      exact other compares
    | cons d part => exact ih (List.cons_ne_nil d part) fun e inside => plain e (.tail _ inside)

/-- Whether a text assigns does not depend on the spelling of its operands. -/
theorem Respelled.isAssignment_eq (respelled : Respelled .outside old new) :
    isAssignment old = isAssignment new := by
  -- What stands in front counts only by whether it makes an operator of an equals sign.
  have follow {state : Quoting} {old new : List Char} (respelled : Respelled state old new) :
      ∀ left right, comparesLeft left = comparesLeft right →
        assigns left (markFrom state old) = assigns right (markFrom state new) := by
    induction respelled with
    | nil => exact fun _ _ _ => rfl
    | @same state c old new later ih =>
      intro left right alike
      rw [assigns_cons, assigns_cons, alike, later.comparesRight_eq, ih _ _ rfl]
    | @operand state part other old new written respelled stays later ih =>
      intro left right _
      obtain ⟨last, plain, before⟩ := written.assigns_append old
      obtain ⟨last', plain', after⟩ := respelled.assigns_append new
      rw [before, after, ← stays, ih _ _ (plain.trans plain'.symm)]
  exact follow respelled none none rfl

/-! ## Resolving respells -/

theorem isOperand_of_isWord (filled : part ≠ []) (chars : ∀ c ∈ part, isWord c = true) :
    IsOperand part := by
  have symbols : ∀ d ∈ ['=', '!', '<', '>'], isWord d = false := forall_listed (by decide)
  refine ⟨filled, fun c inside symbol => ?_⟩
  cases (symbols c symbol).symm.trans (chars c inside)

/-- The word behind a sigil neither opens nor closes a string. -/
theorem Quoting.after_word (opened : state.Opened) (chars : ∀ c ∈ part, isWord c = true) :
    (state.next '$').after part = state.next '$' := by
  have plain : ∀ c ∈ part, isQuote c = false := fun c inside => isQuote_of_isWord (chars c inside)
  have stays {quote : Char} (quoted : isQuote quote = true) :
      (Quoting.inside quote).after part = .inside quote := by
    refine Quoting.after_inside (fun inside => ?_) (not_mem_of_isWord chars (by decide))
    cases quoted.symm.trans (plain quote inside)
  cases state with
  | outside => exact Quoting.after_of_no_quote plain
  | inside quote =>
    have other : '$' ≠ quote := by
      rintro rfl
      cases opened
    have passes : (Quoting.inside quote).next '$' = .inside quote := by simp [Quoting.next, other]
    rw [passes]
    exact stays opened
  | escaped quote => exact stays opened

/-- Placeholders that are numbered are respelled. -/
theorem respelled_renameBindings (level : Nat) (text : List Char) :
    Respelled .outside text (renameBindings level text) := by
  unfold renameBindings
  by_cases outside : level = 0
  · rw [if_pos outside]
    exact .refl text
  rw [if_neg outside]
  -- A placeholder can stand in a string; that it was opened by a quote is all that is needed.
  have opened := Quoting.opened_outside
  generalize Quoting.outside = state at opened ⊢
  induction text using renamewise generalizing state with
  | ended => exact .nil
  | placeholder name listed after ends ih =>
    have chars := isWord_of_mem_bindingNames listed
    have filled := (isIdentifier_of_mem_bindingNames listed).ne_nil
    have numberedChars := isWord_append_decimal listed level
    have before := Quoting.after_word opened chars
    have behind := Quoting.after_word opened numberedChars
    refine .same (.operand (isOperand_of_isWord filled chars)
      (isOperand_of_isWord (List.append_ne_nil_of_left_ne_nil filled _) numberedChars)
      (before.trans behind.symm) ?_)
    rw [before]
    exact ih _ (Quoting.opened_next opened '$')
  | other c rest unlisted ih => exact .same (ih _ (Quoting.opened_next opened c))

/-- A key and the marks around it are an operand, in the text as in host code. -/
theorem isOperand_of_key {key : List Char} (isKey : IsKey key) (filled : part ≠ [])
    (chars : ∀ c ∈ part, c ∈ key ∨ c ∈ ['[', ']', '.', '"']) : IsOperand part := by
  have symbols : ∀ d ∈ ['=', '!', '<', '>'],
      isNameChar d = false ∧ d ≠ '$' ∧ d ∉ ['[', ']', '.', '"'] := forall_listed (by decide)
  refine ⟨filled, fun c inside symbol => ?_⟩
  obtain ⟨noName, noSigil, noMark⟩ := symbols c symbol
  rcases chars c inside with inKey | mark
  · exact isKey.not_mem noName noSigil inKey
  · exact noMark mark

theorem after_quotedKey {key : List Char} (isKey : IsKey key) :
    Quoting.outside.after (quotedKey key) = .outside := by
  have passes : (Quoting.inside '"').after key = .inside '"' :=
    Quoting.after_inside (isKey.not_mem rfl (by decide)) (isKey.not_mem rfl (by decide))
  have opens : (Quoting.outside.next '[').next '"' = .inside '"' := by decide
  rw [quotedKey, Quoting.after_cons, Quoting.after_cons, opens, Quoting.after_append, passes]
  decide

/-- A key and what marks it as one are respelled together. -/
theorem respelled_key {opener : Char} {key closer : List Char} (isKey : IsKey key)
    (marks : ∀ c ∈ opener :: closer, c ∈ ['[', ']', '.'])
    (later : Respelled .outside old new) :
    Respelled .outside (opener :: (key ++ closer) ++ old) (quotedKey key ++ new) := by
  have parts : ∀ c ∈ opener :: (key ++ closer), c ∈ key ∨ c ∈ ['[', ']', '.'] := by
    simp only [List.forall_mem_cons, List.forall_mem_append] at marks ⊢
    exact ⟨.inr marks.1, fun c inside => .inl inside, fun c inside => .inr (marks.2 c inside)⟩
  have noQuote : ∀ d ∈ ['[', ']', '.'], isQuote d = false := forall_listed (by decide)
  have plain : ∀ c ∈ opener :: (key ++ closer), isQuote c = false :=
    fun c inside => (parts c inside).elim (isKey.no_quote c) (noQuote c)
  have written : IsOperand (opener :: (key ++ closer)) :=
    isOperand_of_key isKey (List.cons_ne_nil _ _) fun c inside =>
      (parts c inside).imp_right fun mark => List.mem_append_left ['"'] mark
  have respelled : IsOperand (quotedKey key) := by
    refine isOperand_of_key isKey (List.cons_ne_nil _ _) ?_
    simp only [quotedKey, List.forall_mem_cons, List.forall_mem_append]
    exact ⟨.inr (by decide), .inr (by decide), fun c inside => .inl inside, .inr (by decide),
      .inr (by decide), by simp⟩
  have closed := Quoting.after_of_no_quote plain
  exact .operand written respelled (closed.trans (after_quotedKey isKey).symm) (by rwa [closed])

/-- Keys that are quoted are respelled. -/
theorem respelled_output (reading : Reading) :
    Respelled .outside reading.rest reading.output := by
  induction reading using movewise with
  | ended inChain brackets =>
    rw [output_nil]
    exact .nil
  | moved reading written next move ih =>
    obtain ⟨read, whole, closed⟩ := move.outside
    rw [move.output_eq]
    rcases move.copies_or_quotes with copied | ⟨opener, key, tail, rest, rfl, -, isKey, -, opens⟩
    · obtain rfl : read = written := List.append_cancel_right (whole.symm.trans copied)
      rw [copied]
      -- Only a string that is not closed leaves the scanner inside, and it is the last move.
      rcases closed with closed | ended
      · exact .append_left (by rwa [closed])
      · obtain ⟨inChain, brackets, text⟩ := next
        obtain rfl : text = [] := ended
        rw [output_nil]
        exact .refl _
    · obtain ⟨closer, rfl, marks⟩ : ∃ closer, tail = closer ++ next.rest ∧
          ∀ c ∈ opener :: closer, c ∈ ['[', ']', '.'] := by
        rcases opens with ⟨rfl, rfl⟩ | ⟨rfl, rfl⟩
        · exact ⟨[']'], rfl, forall_listed (by decide)⟩
        · exact ⟨[], rfl, forall_listed (by decide)⟩
      have whole : reading.rest = opener :: (key ++ closer) ++ next.rest := by
        rw [rest, List.cons_append, List.append_assoc]
      rw [whole]
      exact respelled_key isKey marks ih

/-! ## What is printed -/

/-- A variable is named in the text: a `$` stands in front of a letter or an underscore. -/
def NamesVariable (text : List Char) : Prop :=
  ∃ before after, text = before ++ '$' :: after ∧ startsName after = true

theorem hasVariable_iff : hasVariable text = true ↔ NamesVariable text := by
  induction text with
  | nil => simp [hasVariable, NamesVariable]
  | cons c rest ih =>
    rw [hasVariable, Bool.or_eq_true, Bool.and_eq_true, beq_iff_eq, ih]
    constructor
    · rintro (⟨rfl, named⟩ | ⟨before, after, rfl, named⟩)
      · exact ⟨[], rest, rfl, named⟩
      · exact ⟨c :: before, after, rfl, named⟩
    · rintro ⟨before, after, split, named⟩
      cases before with
      | nil =>
        obtain ⟨rfl, rfl⟩ := List.cons.inj split
        exact .inl ⟨rfl, named⟩
      | cons d before =>
        obtain ⟨rfl, rfl⟩ := List.cons.inj split
        exact .inr ⟨before, after, rfl, named⟩

instance (text : List Char) : Decidable (NamesVariable text) := decidable_of_iff _ hasVariable_iff

theorem startsName_takeWhile (text : List Char) :
    startsName (text.takeWhile isWord) = startsName text := by
  cases text with
  | nil => rfl
  | cons c rest =>
    by_cases word : isWord c = true
    · rw [List.takeWhile_cons_of_pos word]
      rfl
    · have noStart : startsName (c :: rest) = false := by
        rw [← Bool.not_eq_true]
        exact fun start => word (isWord_of_isNameChar (isNameChar_of_isNameStart start))
      rw [List.takeWhile_cons_of_neg word, noStart]
      rfl

/-- A variable is a reference that begins like a name. -/
theorem namesVariable_iff_references :
    NamesVariable text ↔ ∃ word ∈ references text, startsName word = true := by
  constructor
  · rintro ⟨before, after, rfl, named⟩
    exact ⟨_, mem_references_iff.2 ⟨before, after, rfl, rfl⟩,
      (startsName_takeWhile after).trans named⟩
  · rintro ⟨word, listed, named⟩
    obtain ⟨before, after, rfl, rfl⟩ := mem_references_iff.1 listed
    exact ⟨before, after, rfl, (startsName_takeWhile after).symm.trans named⟩

theorem startsName_numbered (level : Nat) (word : List Char) :
    startsName (numbered level word) = startsName word := by
  unfold numbered
  split
  · rename_i placeholder
    have identifier := isIdentifier_of_mem_bindingNames placeholder.1
    rw [identifier.startsName_append, identifier.1]
  · rfl

/-- Numbering placeholders makes no variables and takes none away. -/
theorem namesVariable_renameBindings (level : Nat) (text : List Char) :
    NamesVariable (renameBindings level text) ↔ NamesVariable text := by
  simp only [namesVariable_iff_references, references_renameBindings, List.mem_map,
    exists_exists_and_eq_and, startsName_numbered]

/-- At any level and in any character set an expression is printed exactly if it names a
    variable and does not assign. -/
theorem resolve_isOutput_iff (text : List Char) (level : Nat) (charset? : Option (List Char)) :
    (resolve text level charset?).isOutput = true ↔ NamesVariable text ∧ ¬ Assigns text := by
  have naming : hasVariable (renameBindings level text) = true ↔ NamesVariable text :=
    hasVariable_iff.trans (namesVariable_renameBindings level text)
  -- The compiler looks for equals signs only after both steps that respell.
  have assigning : isAssignment (quoteSubscripts (renameBindings level text)) = true ↔
      Assigns text := by
    have quoted := (respelled_output ⟨false, [], renameBindings level text⟩).isAssignment_eq
    rw [← isAssignment_iff, (respelled_renameBindings level text).isAssignment_eq]
    exact Eq.congr_left quoted.symm
  rw [← naming, ← assigning]
  unfold resolve Resolved.isOutput
  by_cases named : hasVariable (renameBindings level text) = true <;> simp [named]

end Stencil.Expr

namespace Stencil.Program

open Stencil.Expr (Assigns NamesVariable resolve_isOutput_iff)
open Stencil.Tag
open Stencil.Template

/-- A variable tag that the compiler comes to becomes one instruction, whatever loops and
    blocks are open around it.  It is a statement if the expression assigns or names no
    variable, and it prints otherwise. -/
theorem reaches_variableTag (compiler : Compiler) (source : List Char) (origin : Origin)
    (before after : List Token) (token : Token) (state : State) (written : List Instruction)
    (found : TagMatch) (split : compiler.tokens source = before ++ token :: after)
    (reached : compiler.reaches source origin before = .ok (state, written))
    (active : IsActive compiler.options state.region token)
    (classified : classify? compiler.options.caseInsensitiveTags token.text = some found)
    (kind : found.kind = .variableTag) :
    ∃ instruction,
      compiler.reaches source origin (before ++ [token]) =
        .ok (state, written ++ [instruction]) ∧
      (∀ program, (compiler.compile source origin).result = .ok program →
        written ++ [instruction] <+: program.instructions) ∧
      ((∃ expr, instruction = .statement expr) ↔
        Assigns (withoutBraces found.whole) ∨ ¬ NamesVariable (withoutBraces found.whole)) ∧
      ((∃ expr, instruction = .output expr) ↔
        ¬ (Assigns (withoutBraces found.whole) ∨ ¬ NamesVariable (withoutBraces found.whole))) := by
  let resolved := Expr.resolve (withoutBraces found.whole) state.loops.length
    (compiler.charset? state)
  have prints : resolved.isOutput = true ↔
      ¬ (Assigns (withoutBraces found.whole) ∨ ¬ NamesVariable (withoutBraces found.whole)) := by
    rw [resolve_isOutput_iff]
    tauto
  let instruction : Instruction :=
    if resolved.isOutput then .output resolved.expr else .statement resolved.expr
  have stepped : compiler.step origin (Source.LineIndex.ofText (normalizeLineEndings source)) state
      token = .ok { state, instructions := [instruction] } := by
    rw [step_of_active active classified]
    simp only [Compiler.ordinaryTag, kind]
    rfl
  have reachedNext := reaches_concat reached stepped
  refine ⟨instruction, reachedNext, fun program compiled => ?_, ?_, ?_⟩
  · exact isPrefix_of_reaches compiled (by rw [split, List.append_cons]) reachedNext
  · rw [← not_iff_not, ← prints]
    by_cases isOutput : resolved.isOutput = true <;> simp [instruction, isOutput]
  · rw [← prints]
    by_cases isOutput : resolved.isOutput = true <;> simp [instruction, isOutput]

/-- In a loop in an escaping block, a value with `>=` and an equals sign in a string prints. -/
theorem reaches_variableTag_comparison :
    let compiler : Compiler := ⟨{}, .empty⟩
    let source := "\x7bautoescape=\"on\"\x7d\x7bloop=\"$xs\"\x7d".toList ++
      "\x7b$value.k >= 'a=b'\x7d\x7b/loop\x7d".toList
    let before := (compiler.tokens source).take 2
    let after := (compiler.tokens source).drop 3
    let token : Token := ⟨.candidate, "\x7b$value.k >= 'a=b'\x7d".toList, ⟨29, 19⟩⟩
    let state : State := { loops := [⟨17, 12⟩], escapes := [true] }
    let written : List Instruction :=
      [.loopOpen ⟨1, .direct "$xs".toList, "$key1".toList, "$value1".toList⟩]
    let found : TagMatch := ⟨.variableTag, [], [.fixed token.text]⟩
    compiler.tokens source = before ++ token :: after ∧
    compiler.reaches source (.file [] []) before = .ok (state, written) ∧
    IsActive compiler.options state.region token ∧
    classify? compiler.options.caseInsensitiveTags token.text = some found ∧
    found.kind = .variableTag ∧
    NamesVariable (withoutBraces found.whole) ∧ ¬ Assigns (withoutBraces found.whole) ∧
    ∃ instruction,
      compiler.reaches source (.file [] []) (before ++ [token]) =
        .ok (state, written ++ [instruction]) ∧
      (∀ program, (compiler.compile source (.file [] [])).result = .ok program →
        written ++ [instruction] <+: program.instructions) ∧
      ((∃ expr, instruction = .statement expr) ↔
        Assigns (withoutBraces found.whole) ∨ ¬ NamesVariable (withoutBraces found.whole)) ∧
      ((∃ expr, instruction = .output expr) ↔
        ¬ (Assigns (withoutBraces found.whole) ∨
          ¬ NamesVariable (withoutBraces found.whole))) := by
  intro compiler source before after token state written found
  have split : compiler.tokens source = before ++ token :: after := by decide +kernel
  have reached : compiler.reaches source (.file [] []) before = .ok (state, written) := by
    decide +kernel
  have active : IsActive compiler.options state.region token := by decide +kernel
  have classified : classify? compiler.options.caseInsensitiveTags token.text = some found := by
    decide +kernel
  exact ⟨split, reached, active, classified, rfl, by decide +kernel, by decide +kernel,
    reaches_variableTag _ _ _ _ _ _ _ _ _ split reached active classified rfl⟩

/-- A sigil in front of a digit makes a variable tag, but no variable: nothing is assigned,
    and nothing is printed. -/
theorem reaches_variableTag_digit :
    let compiler : Compiler := ⟨{}, .empty⟩
    let source := "\x7b$1\x7d".toList
    let token : Token := ⟨.candidate, source, ⟨0, 4⟩⟩
    let found : TagMatch := ⟨.variableTag, [], [.fixed source]⟩
    let instruction : Instruction := .statement (.code "$1".toList)
    compiler.tokens source = [token] ∧
    IsActive compiler.options .markup token ∧
    classify? compiler.options.caseInsensitiveTags token.text = some found ∧
    found.kind = .variableTag ∧
    compiler.reaches source (.file [] []) [token] = .ok ({}, [instruction]) ∧
    ¬ ((∃ expr, instruction = .statement expr) ↔ Assigns (withoutBraces found.whole)) := by
  intro compiler source token found instruction
  have silent : ¬ Assigns (withoutBraces found.whole) := by decide +kernel
  exact ⟨by decide +kernel, by decide +kernel, by decide +kernel, rfl, by decide +kernel,
    fun prints => silent (prints.1 ⟨_, rfl⟩)⟩

end Stencil.Program
