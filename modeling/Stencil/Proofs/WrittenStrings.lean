import Stencil.Proofs.EscapeOverlay
import Stencil.Proofs.HostStrings

/-! # Strings in compiled programs

The path of an include, the folder of one that is computed and the character set of
an escape are placed between quotes as they are.  So the host reads them back exactly
if they stand for themselves there.

* `Expr.Within` — parts of an expression, whose code its code holds;
* `escape_of_compile` — escapes and their character set;
* `compile_literals` — the strings of a compiled program.
-/

namespace Stencil

open Stencil.Expr (resolve isPlain_composeModifiers isPlain_resolve)
open Stencil.Php (instruction)
open Stencil.Program (Compiler Instruction IncludeTarget LoopSource)

/-! ## Parts of expressions -/

/-- An expression is part of another one. -/
inductive Expr.Within (part : Expr) : Expr → Prop where
  | whole : Within part part
  | target {name : List Char} {target : Expr} {arguments : Option (List Char)}
      (inside : Within part target) : Within part (.modifier name target arguments)
  | escaped {inner : Expr} {charset : List Char} (inside : Within part inner) :
      Within part (.escape inner charset)
  | condition {condition ifTrue ifFalse : Expr} (inside : Within part condition) :
      Within part (.ternary condition ifTrue ifFalse)
  | ifTrue {condition ifTrue ifFalse : Expr} (inside : Within part ifTrue) :
      Within part (.ternary condition ifTrue ifFalse)
  | ifFalse {condition ifTrue ifFalse : Expr} (inside : Within part ifFalse) :
      Within part (.ternary condition ifTrue ifFalse)
  | arguments {function : List Char} {arguments : Expr} (inside : Within part arguments) :
      Within part (.callWith function arguments)

/-- The expressions that an instruction is written with. -/
def Program.Instruction.expressions : Instruction → List Expr
  | .output expr | .statement expr | .ifOpen expr | .elseIf expr => [expr]
  | .loopOpen header =>
    match header.source with
    | .computed expr => [expr]
    | .direct _ => []
  | .inclusion (.dynamic _ path) => [path]
  | _ => []

section Parts

variable {part expr inner : Expr} {charset : List Char}

theorem expression_ternary (condition ifTrue ifFalse : Expr) :
    Php.expression (.ternary condition ifTrue ifFalse) = ['('] ++ Php.expression condition ++
      ['?'] ++ Php.expression ifTrue ++ [':'] ++ Php.expression ifFalse ++ [')'] :=
  rfl

theorem expression_escape (inner : Expr) (charset : List Char) :
    Php.expression (.escape inner charset) = "htmlspecialchars( ".toList ++ (Php.expression inner ++
      (", ENT_QUOTES | ENT_SUBSTITUTE | ENT_HTML401, ".toList ++
        '\'' :: (charset ++ '\'' :: ", FALSE )".toList))) := by
  have opening : ", ENT_QUOTES | ENT_SUBSTITUTE | ENT_HTML401, '".toList =
      ", ENT_QUOTES | ENT_SUBSTITUTE | ENT_HTML401, ".toList ++ ['\''] := rfl
  have closing : "', FALSE )".toList = '\'' :: ", FALSE )".toList := rfl
  have code : Php.expression (.escape inner charset) = "htmlspecialchars( ".toList ++
      Php.expression inner ++ ", ENT_QUOTES | ENT_SUBSTITUTE | ENT_HTML401, '".toList ++ charset ++
        "', FALSE )".toList := rfl
  rw [code, opening, closing]
  simp only [List.append_assoc, List.cons_append, List.nil_append]

/-- The code of an expression holds that of its parts. -/
theorem Expr.Within.infix (inside : part.Within expr) :
    Php.expression part <:+: Php.expression expr := by
  induction inside with
  | whole => exact List.infix_refl _
  | @target name target arguments _ ih =>
    refine ih.trans ?_
    cases arguments with
    | none => exact ⟨name ++ ['('], [')'], rfl⟩
    | some arguments =>
      have code : Php.expression (.modifier name target (some arguments)) =
          name ++ ['('] ++ Php.expression target ++ [','] ++ arguments ++ [')'] := rfl
      exact ⟨name ++ ['('], [','] ++ arguments ++ [')'], by simp only [code, List.append_assoc]⟩
  | escaped _ ih =>
    rw [expression_escape]
    exact ih.trans (List.infix_append' _ _ _)
  | @condition condition ifTrue ifFalse _ ih =>
    refine ih.trans ⟨['('], ['?'] ++ Php.expression ifTrue ++ [':'] ++ Php.expression ifFalse ++
      [')'], ?_⟩
    rw [expression_ternary]
    simp only [List.append_assoc]
  | @ifTrue condition ifTrue ifFalse _ ih =>
    refine ih.trans ⟨['('] ++ Php.expression condition ++ ['?'],
      [':'] ++ Php.expression ifFalse ++ [')'], ?_⟩
    rw [expression_ternary]
    simp only [List.append_assoc]
  | @ifFalse condition ifTrue ifFalse _ ih =>
    exact ih.trans ⟨['('] ++ Php.expression condition ++ ['?'] ++ Php.expression ifTrue ++ [':'],
      [')'], rfl⟩
  | @arguments function _ _ ih => exact ih.trans ⟨function ++ ['('], [')'], rfl⟩

theorem Expr.IsPlain.not_within (plain : expr.IsPlain) :
    ¬ Expr.Within (.escape inner charset) expr := by
  intro inside
  induction inside with
  | whole => exact plain
  | target _ ih | arguments _ ih => exact ih plain
  | escaped => exact plain
  | condition _ ih => exact ih plain.1
  | ifTrue _ ih => exact ih plain.2.1
  | ifFalse _ ih => exact ih plain.2.2

/-- A value is escaped for the character set that is asked for. -/
theorem charset_of_resolve {text : List Char} {level : Nat} {charset? : Option (List Char)}
    (inside : Expr.Within (.escape inner charset) (resolve text level charset?).expr) :
    charset? = some charset := by
  cases charset? with
  | none => exact absurd inside (isPlain_resolve text level).not_within
  | some other =>
    unfold resolve at inside
    dsimp only at inside
    split at inside
    · dsimp only at inside
      split at inside
      · exact absurd inside (isPlain_composeModifiers _).not_within
      · cases inside with
        | whole => rfl
        | escaped deeper => exact absurd deeper (isPlain_composeModifiers _).not_within
    · cases inside

end Parts

/-! ## Compiled programs -/

namespace Program

open Stencil.Php (PlainInDouble PlainInSingle readDouble? readSingle? readDouble?_eq_iff
  readSingle?_eq_iff)
open Stencil.Source (LineIndex)
open Stencil.Template
open Stencil.Text (bytes)

variable {compiler : Compiler} {origin : Origin} {lines : LineIndex} {state final : State}
  {token : Token} {tokens : List Token} {found : Tag.TagMatch} {effect : Effect}
  {instructions : List Instruction} {written : Instruction} {expr inner : Expr}
  {charset source : List Char} {program : Program}

theorem charset_of_printed (printed : Printed compiler state found expr)
    (inside : Expr.Within (.escape inner charset) expr) : charset = compiler.options.charset := by
  have asked (charset?_eq : compiler.charset? state = some charset) :
      charset = compiler.options.charset := by
    unfold Compiler.charset? at charset?_eq
    split at charset?_eq
    · exact (Option.some.inj charset?_eq).symm
    · cases charset?_eq
  cases printed with
  | call => cases inside
  | callWith =>
    cases inside with
    | arguments deeper => exact absurd deeper (isPlain_resolve _ _).not_within
  | ternary _ resolved =>
    cases inside with
    | condition deeper => exact asked (charset_of_resolve (resolved 1 ▸ deeper))
    | ifTrue deeper => exact asked (charset_of_resolve (resolved 2 ▸ deeper))
    | ifFalse deeper => exact asked (charset_of_resolve (resolved 3 ▸ deeper))
  | variableTag => exact asked (charset_of_resolve inside)
  | constantTag => exact absurd inside (isPlain_composeModifiers _).not_within

theorem isPlain_of_mem_expressions (roots : written.EscapesAtRoot)
    (silent : ∀ expr, written ≠ .output expr) (among : expr ∈ written.expressions) :
    expr.IsPlain := by
  cases written with
  | output value => exact absurd rfl (silent value)
  | statement value | ifOpen value | elseIf value => exact List.mem_singleton.1 among ▸ roots
  | loopOpen header =>
    obtain ⟨level, source, key, value⟩ := header
    cases source with
    | direct code => cases among
    | computed value => exact List.mem_singleton.1 among ▸ roots value rfl
  | inclusion target =>
    cases target with
    | fixed path => cases among
    | dynamic folder path => exact List.mem_singleton.1 among ▸ roots folder path rfl
  | _ => cases among

/-- What a token writes is escaped in printed values only, for the character set of the
    options. -/
theorem escape_of_step (stepped : compiler.step origin lines state token = .ok effect)
    (listed : written ∈ effect.instructions) (among : expr ∈ written.expressions)
    (inside : Expr.Within (.escape inner charset) expr) :
    written = .output expr ∧ charset = compiler.options.charset := by
  by_cases printed : ∃ value, written = .output value
  · obtain ⟨value, rfl⟩ := printed
    obtain rfl := List.mem_singleton.1 among
    obtain ⟨-, found, -, -, printed⟩ := printed_of_step stepped listed
    exact ⟨rfl, charset_of_printed printed inside⟩
  · -- Whatever is not printed is written alike under any policy, and without escapes.
    have overlaid := @step_overlaid compiler false [] origin lines state token
    rw [stepped] at overlaid
    generalize Compiler.step _ origin lines state token = other at overlaid
    cases overlaid with
    | ok pairs =>
      obtain ⟨_, same⟩ := List.forall₂_iff_get.1 pairs.2
      obtain ⟨index, bound, rfl⟩ := List.mem_iff_getElem.1 listed
      have plain := isPlain_of_mem_expressions (same index bound (by omega)).2
        (not_exists.1 printed) among
      exact absurd inside plain.not_within

theorem escape_of_compile (compiled : (compiler.compile source origin).result = .ok program)
    (listed : written ∈ program.instructions) (among : expr ∈ written.expressions)
    (inside : Expr.Within (.escape inner charset) expr) :
    written = .output expr ∧ charset = compiler.options.charset := by
  obtain ⟨final, ran, -⟩ := compile_ok_iff.1 compiled
  obtain ⟨state, token, effect, stepped, here⟩ := exists_step_of_run ran listed
  exact escape_of_step stepped here among inside

theorem exists_literal_of_escape (inside : Expr.Within (.escape inner charset) expr) :
    ∃ front after, instruction (.output expr) = front ++ ("htmlspecialchars( ".toList ++
      (Php.expression inner ++ (", ENT_QUOTES | ENT_SUBSTITUTE | ENT_HTML401, ".toList ++
        '\'' :: (charset ++ '\'' :: after)))) := by
  obtain ⟨front, after, whole⟩ := inside.infix
  have code : instruction (.output expr) = "<?php ".toList ++
      ("echo ".toList ++ Php.expression expr ++ [';']) ++ " ?>".toList := rfl
  refine ⟨"<?php ".toList ++ ("echo ".toList ++ front),
    ", FALSE )".toList ++ (after ++ (";".toList ++ " ?>".toList)), ?_⟩
  rw [code, ← whole, expression_escape]
  simp only [List.append_assoc, List.cons_append]
  rfl

theorem instruction_fixed (path : List Char) :
    instruction (.inclusion (.fixed path)) = "<?php require $this->processTemplate(".toList ++
      '"' :: (path ++ '"' :: ");?>".toList) := by
  have code : instruction (.inclusion (.fixed path)) =
      "<?php require $this->processTemplate(\"".toList ++ path ++ "\");?>".toList := rfl
  have opening : "<?php require $this->processTemplate(\"".toList =
      "<?php require $this->processTemplate(".toList ++ ['"'] := rfl
  have closing : "\");?>".toList = '"' :: ");?>".toList := rfl
  rw [code, opening, closing]
  simp only [List.append_assoc, List.cons_append, List.nil_append]

theorem instruction_dynamic (folder : List Char) (path : Expr) :
    instruction (.inclusion (.dynamic folder path)) =
      "<?php require $this->processTemplate(".toList ++
        '\'' :: (folder ++ '\'' :: ('.' :: (Php.expression path ++ ");?>".toList))) := by
  have code : instruction (.inclusion (.dynamic folder path)) =
      "<?php require $this->processTemplate('".toList ++ folder ++ "'.".toList ++
        Php.expression path ++ ");?>".toList := rfl
  have opening : "<?php require $this->processTemplate('".toList =
      "<?php require $this->processTemplate(".toList ++ ['\''] := rfl
  have closing : "'.".toList = ['\'', '.'] := rfl
  rw [code, opening, closing]
  simp only [List.append_assoc, List.cons_append, List.nil_append]

/-- The path of an include and the folder of one that is computed stand between quotes,
    and so does the character set of every escape, which is that of the options.  The
    host reads them back, up to the quote written behind them, exactly if they stand for
    themselves between quotes of that kind, and what it reads does not end before that
    quote unless they hold one. -/
theorem compile_literals (compiled : (compiler.compile source origin).result = .ok program)
    (listed : written ∈ program.instructions) :
    (∀ path, written = .inclusion (.fixed path) →
      ∃ after, instruction written = "<?php require $this->processTemplate(".toList ++
          '"' :: (path ++ '"' :: after) ∧
        (readDouble? (path ++ '"' :: after) = some (bytes path, after) ↔ PlainInDouble path) ∧
        ('"' ∉ path → ∀ value rest, readDouble? (path ++ '"' :: after) = some (value, rest) →
          rest <:+ after)) ∧
      (∀ folder path, written = .inclusion (.dynamic folder path) →
        ∃ after, instruction written = "<?php require $this->processTemplate(".toList ++
            '\'' :: (folder ++ '\'' :: after) ∧
          (readSingle? (folder ++ '\'' :: after) = some (folder, after) ↔ PlainInSingle folder) ∧
          ('\'' ∉ folder → ∀ value rest,
            readSingle? (folder ++ '\'' :: after) = some (value, rest) → rest <:+ after)) ∧
      ∀ expr ∈ written.expressions, ∀ inner charset, Expr.Within (.escape inner charset) expr →
        charset = compiler.options.charset ∧
          ∃ front after, instruction written = front ++ ("htmlspecialchars( ".toList ++
              (Php.expression inner ++ (", ENT_QUOTES | ENT_SUBSTITUTE | ENT_HTML401, ".toList ++
                '\'' :: (charset ++ '\'' :: after)))) ∧
            (readSingle? (charset ++ '\'' :: after) = some (charset, after) ↔
              PlainInSingle charset) ∧
            ('\'' ∉ charset → ∀ value rest,
              readSingle? (charset ++ '\'' :: after) = some (value, rest) → rest <:+ after) := by
  have double (text after : List Char) (plain : '"' ∉ text) (value : List UInt8) (rest : List Char)
      (read : readDouble? (text ++ '"' :: after) = some (value, rest)) : rest <:+ after :=
    Php.suffix_of_quote plain (Php.suffix_of_readDouble? read)
  have single (text after : List Char) (plain : '\'' ∉ text) (value rest : List Char)
      (read : readSingle? (text ++ '\'' :: after) = some (value, rest)) : rest <:+ after :=
    Php.suffix_of_quote plain (Php.suffix_of_readSingle? read)
  refine ⟨?_, ?_, ?_⟩
  · rintro path rfl
    exact ⟨_, instruction_fixed path, readDouble?_eq_iff _ _, double _ _⟩
  · rintro folder path rfl
    exact ⟨_, instruction_dynamic folder path, readSingle?_eq_iff _ _, single _ _⟩
  · intro expr among inner charset inside
    obtain ⟨rfl, isCharset⟩ := escape_of_compile compiled listed among inside
    obtain ⟨front, after, code⟩ := exists_literal_of_escape inside
    exact ⟨isCharset, front, after, code, readSingle?_eq_iff _ _, single _ _⟩

/-- A backslash in a path is read with the letter behind it. -/
theorem compile_literals_newline :
    let compiler : Compiler := ⟨{}, .empty⟩
    let program : Program := ⟨[.inclusion (.fixed "mail\\new".toList)]⟩
    (compiler.compile "\x7binclude=\"mail\\new\"\x7d".toList (.file [] [])).result = .ok program ∧
      .inclusion (.fixed "mail\\new".toList) ∈ program.instructions ∧
      ∃ after, instruction (.inclusion (.fixed "mail\\new".toList)) =
          "<?php require $this->processTemplate(".toList ++
            '"' :: ("mail\\new".toList ++ '"' :: after) ∧
        readDouble? ("mail\\new".toList ++ '"' :: after) ≠
          some (bytes "mail\\new".toList, after) := by
  intro compiler program
  have compiled : (compiler.compile "\x7binclude=\"mail\\new\"\x7d".toList (.file [] [])).result =
      .ok program := by decide +kernel
  have listed : .inclusion (.fixed "mail\\new".toList) ∈ program.instructions := .head _
  obtain ⟨after, code, readsBack, -⟩ := (compile_literals compiled listed).1 _ rfl
  refine ⟨compiled, listed, after, code, fun read => ?_⟩
  obtain ⟨c, rest, same, free⟩ := (readsBack.1 read).slash "mail".toList "new".toList rfl
  obtain ⟨rfl, -⟩ := List.cons.inj same
  exact free (.inl (by decide))

end Program

end Stencil
