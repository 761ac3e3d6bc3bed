import Stencil.Expr.Resolve
import Stencil.Program.Instruction
import Stencil.Source.Position
import Stencil.Tag.Shape
import Stencil.Template.LineEnding
import Stencil.Template.Path
import Stencil.Template.Token

/-! # Compiling templates

The compiler goes through the tokens of a template once.  Between tokens it
knows which blocks are open and whether it is in a *region*, a stretch whose
tags are not looked at.  Each token yields the next state, instructions and
events.

* `settleRegion?` — what a region does with a candidate;
* `Compiler.ordinaryTag` — the meaning of a tag outside regions;
* `Compiler.step` — one token;
* `Compiler.compile` — a whole template, with the events on the way.
-/

namespace Stencil.Program

open Stencil.Expr (resolve composeModifiers)
open Stencil.Source (Span LineIndex)
open Stencil.Tag
open Stencil.Template
open Stencil.Text

/-- The stretch of a template the compiler is in. -/
inductive Region where
  /-- Text and tags. -/
  | markup
  /-- Everything is text up to the closing tag. -/
  | noParse
  /-- Everything is dropped up to the closing tag. -/
  | ignored
  /-- Host code, copied up to the closing tag. -/
  | rawCode
  deriving DecidableEq, Repr

/-- The region after a tag that closes `closed`: other regions go on. -/
def Region.leave (region closed : Region) : Region :=
  if region = closed then .markup else region

/-- What the compiler remembers between tokens. -/
structure State where
  /-- The open loops, innermost first. -/
  loops : List Span := []
  /-- The open conditionals, innermost first. -/
  conditionals : List Span := []
  /-- Whether the open autoescape blocks escape, innermost first. -/
  escapes : List Bool := []
  region : Region := .markup
  deriving DecidableEq, Repr

/-- What a token leads to. -/
structure Effect where
  state : State
  instructions : List Instruction := []
  events : List Event := []

/-- A compiler: its switches and the custom tags it knows. -/
structure Compiler where
  options : CompileOptions
  registry : Registry

/-! ## Regions -/

/-- The remark left for raw code that is not allowed. -/
def rawCodeNotice : List Char := "\x7bphp\x7d tag detected but not enabled".toList

/-- The remark left for the end of raw code that is not allowed. -/
def rawCodeCloseNotice : List Char := "\x7b/php\x7d tag detected but not enabled".toList

/-- What the region makes of a candidate: the region after it and what is
    written.  A candidate that is left over is an active tag. -/
def settleRegion? (options : CompileOptions) (region : Region) (text : List Char) :
    Option (Region × List Instruction) :=
  let closes (kind : TagKind) : Bool := kind.occursIn options.caseInsensitiveTags text
  -- Raw code that is not allowed was dropped like a comment.
  if region ≠ .noParse && closes .rawCodeClose && !options.allowRawCode then
    some (region.leave .ignored, [.notice rawCodeCloseNotice])
  else if region = .rawCode && closes .rawCodeClose then
    some (.markup, [.rawCodeClose])
  else if region ≠ .noParse && closes .ignoreClose then
    some (region.leave .ignored, [])
  else if region = .ignored then
    some (.ignored, [])
  -- In dropped text the end of other regions is dropped, too.
  else if closes .noParseClose then
    some (region.leave .noParse, [])
  else if region = .markup then none
  else some (region, [.text text])

/-! ## Arguments of tags -/

/-- Whether a mode of an autoescape block escapes. -/
def escapes (mode : List Char) : Bool :=
  !(["off".toList, "false".toList, "0".toList, []].contains mode)

/-- A tag without its braces. -/
def withoutBraces (tag : List Char) : List Char :=
  ((stripStart? ['{'] tag).bind (stripEnd? ['}'])).getD tag

/-- The constant that a tag between hash marks names. -/
def constantText (tag : List Char) : List Char :=
  let content := withoutBraces tag
  let content := (stripStart? ['#'] content).getD content
  (stripEnd? ['#'] content).getD content

/-- The header of a loop at a depth.  A bare name goes over the variable of that
    name; a single binding names the value. -/
def loopHeader (found : TagMatch) (level : Nat) : Loop :=
  let source := match (resolve (found.argument 1) (level - 1) none).expr with
    | .code code =>
      if code.contains '(' then LoopSource.computed (.code code)
      else if code.contains '$' then .direct code
      else .direct ('$' :: code)
    | expr => .computed expr
  -- The depth keeps the names of loops apart that are open together.
  let defaultKey := "$key".toList ++ decimal level
  let (key, value) := match found.argument? 2, found.argument? 3 with
    | some key, some value => (key, value)
    | some value, none => (defaultKey, value)
    | none, _ => (defaultKey, "$value".toList ++ decimal level)
  ⟨level, source, key, value⟩

namespace Compiler

/-- The template that an include tag names, relative to the including one. -/
def includeTarget (compiler : Compiler) (origin : Origin) (path : List Char) (level : Nat) :
    IncludeTarget :=
  let directory := origin.directory
  let folder := (stripStart? compiler.options.templateDir directory).getD directory
  if path.contains '$' then .dynamic (reducePath folder) (resolve path level none).expr
  else .fixed (reducePath (folder ++ path))

/-- The character set for which printed values are escaped, if they are. -/
def charset? (compiler : Compiler) (state : State) : Option (List Char) :=
  if state.escapes.head?.getD compiler.options.autoEscape then some compiler.options.charset
  else none

/-- Where a span starts, as messages put it. -/
def place (origin : Origin) (lines : LineIndex) (span : Span) : List Char :=
  " in ".toList ++ origin.render ++ " at ".toList ++ (lines.position span).render

/-! ## Tags -/

/-- A break or continue tag; outside loops it is reported. -/
def loopJump (origin : Origin) (lines : LineIndex) (state : State) (span : Span) (kind : TagKind)
    (instruction : Instruction) : Effect :=
  let stray : Event :=
    ⟨.warn, .compiler, '{' :: kind.name ++ "\x7d outside of a loop".toList ++
      place origin lines span⟩
  { state, instructions := [instruction], events := if state.loops.isEmpty then [stray] else [] }

/-- The meaning of a tag that stands outside regions. -/
def ordinaryTag (compiler : Compiler) (origin : Origin) (lines : LineIndex) (state : State)
    (span : Span) (found : TagMatch) : Except TemplateError Effect :=
  let level := state.loops.length
  let emit (instruction : Instruction) : Except TemplateError Effect :=
    .ok { state, instructions := [instruction] }
  let value (text : List Char) : Expr := (resolve text level none).expr
  match found.kind with
  | .ignoreOpen => .ok { state := { state with region := .ignored } }
  | .noParseOpen => .ok { state := { state with region := .noParse } }
  | .rawCodeOpen =>
    if compiler.options.allowRawCode then
      .ok { state := { state with region := .rawCode }, instructions := [.rawCodeOpen] }
    else
      .ok { state := { state with region := .ignored }, instructions := [.notice rawCodeNotice] }
  | .inclusion => emit (.inclusion (compiler.includeTarget origin (found.argument 1) level))
  | .loopOpen =>
    .ok { state := { state with loops := span :: state.loops }
          instructions := [.loopOpen (loopHeader found (level + 1))] }
  | .loopClose =>
    match state.loops with
    | [] => .error (.unexpectedClose .loop origin span)
    | _ :: loops => .ok { state := { state with loops }, instructions := [.loopClose] }
  | .loopBreak => .ok (loopJump origin lines state span .loopBreak .loopBreak)
  | .loopContinue => .ok (loopJump origin lines state span .loopContinue .loopContinue)
  | .ifOpen =>
    .ok { state := { state with conditionals := span :: state.conditionals }
          instructions := [.ifOpen (value (found.argument 1))] }
  | .elseIf => emit (.elseIf (value (found.argument 1)))
  | .otherwise => emit .otherwise
  | .ifClose =>
    match state.conditionals with
    | [] => .error (.unexpectedClose .conditional origin span)
    | _ :: conditionals =>
      .ok { state := { state with conditionals }, instructions := [.ifClose] }
  | .autoescapeOpen =>
    .ok { state := { state with escapes := escapes (found.argument 1) :: state.escapes } }
  | .autoescapeClose =>
    match state.escapes with
    | [] =>
      let stray : Event :=
        ⟨.warn, .compiler, "\x7b/autoescape\x7d with no open block".toList ++
          place origin lines span⟩
      .ok { state, events := [stray] }
    | _ :: rest => .ok { state := { state with escapes := rest } }
  | .functionCall =>
    let function := replaceChar '/' ['\\'] (found.argument 1)
    match found.argument? 2 with
    | some arguments => emit (.output (.callWith function (value arguments.tail.dropLast)))
    | none => emit (.output (.call function))
  | .ternary =>
    let part (index : Nat) : Expr :=
      (resolve (found.argument index) level (compiler.charset? state)).expr
    emit (.output (.ternary (part 1) (part 2) (part 3)))
  | .variableTag =>
    let resolved := resolve (withoutBraces found.whole) level (compiler.charset? state)
    emit (if resolved.isOutput then .output resolved.expr else .statement resolved.expr)
  | .constantTag => emit (.output (composeModifiers (constantText found.whole)))
  | .rawCodeClose | .ignoreClose | .noParseClose => emit (.text found.whole)

/-- A candidate that no built-in kind recognises: custom tags in order, or plain
    text. -/
def customTags (compiler : Compiler) (text : List Char) : List Instruction :=
  match compiler.registry.matching text with
  | [] => [.text text]
  | found => found.map fun (name, tagMatches) => .customTag name tagMatches

/-- What a candidate leads to. -/
def candidate (compiler : Compiler) (origin : Origin) (lines : LineIndex) (state : State)
    (span : Span) (text : List Char) : Except TemplateError Effect :=
  match settleRegion? compiler.options state.region text with
  | some (region, instructions) => .ok { state := { state with region }, instructions }
  | none =>
    match classify? compiler.options.caseInsensitiveTags text with
    | some found => compiler.ordinaryTag origin lines state span found
    | none => .ok { state, instructions := compiler.customTags text }

/-- What a token leads to. -/
def step (compiler : Compiler) (origin : Origin) (lines : LineIndex) (state : State)
    (token : Token) : Except TemplateError Effect :=
  match token.kind with
  | .comment => .ok { state }
  | .literal =>
    .ok { state, instructions := if state.region = .ignored then [] else [.text token.text] }
  | .candidate => compiler.candidate origin lines state token.span token.text

/-! ## Whole templates -/

/-- How far a compilation came: the events so far, and the state and the
    instructions at its end unless it failed. -/
structure Run where
  events : List Event
  result : Except TemplateError (State × List Instruction)

/-- Goes through tokens from a state on. -/
def run (compiler : Compiler) (origin : Origin) (lines : LineIndex) (state : State) :
    List Token → Run
  | [] => ⟨[], .ok (state, [])⟩
  | token :: tokens =>
    match compiler.step origin lines state token with
    | .error error => ⟨[], .error error⟩
    | .ok effect =>
      -- What was reported before an error stays reported.
      let later := compiler.run origin lines effect.state tokens
      ⟨effect.events ++ later.events,
        later.result.map fun (final, instructions) => (final, effect.instructions ++ instructions)⟩

/-- The error for a state in which a block is still open: the innermost
    conditional, or else the innermost loop. -/
def unclosed? (origin : Origin) (state : State) : Option TemplateError :=
  match state.conditionals, state.loops with
  | span :: _, _ => some (.unclosed .conditional origin span)
  | [], span :: _ => some (.unclosed .loop origin span)
  | [], [] => none

end Compiler

/-- The outcome of a compilation, and what happened on the way. -/
structure Compilation where
  events : List Event
  result : Except TemplateError Program

/-- Compiles a template. -/
def Compiler.compile (compiler : Compiler) (source : List Char) (origin : Origin) : Compilation :=
  let source := normalizeLineEndings source
  let tokens := tokenize compiler.options.stripComments source
  let ran := compiler.run origin (LineIndex.ofText source) {} tokens
  match ran.result with
  | .error error => ⟨ran.events, .error error⟩
  | .ok (state, instructions) =>
    match Compiler.unclosed? origin state with
    | some error => ⟨ran.events, .error error⟩
    | none =>
      let message := "compiled ".toList ++ origin.render ++ ": ".toList ++ decimal tokens.length ++
        " tokens, ".toList ++ decimal instructions.length ++ " instructions".toList
      ⟨ran.events ++ [⟨.debug, .compiler, message⟩], .ok ⟨instructions⟩⟩

end Stencil.Program
