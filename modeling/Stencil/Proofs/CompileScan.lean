import Stencil.Proofs.EmitScan
import Stencil.Proofs.PathScan
import Stencil.Proofs.ResolveScan
import Stencil.Proofs.Shapes
import Stencil.Proofs.Steps
import Stencil.Proofs.TokenScan

/-! # Compiling without a trap

The compiler takes patterns and line starts by their indices, counts a loop's level
down, and cuts the parentheses off the arguments of a call.  With the scanners of
tokens, expressions and paths these are all its steps that could trap.  A function
of the compiler is written once more with such steps; its name then begins with
`scan`.

* `scanPosition_eq` — positions are found in an index;
* `scanClassify?_eq` — patterns are tried by their indices;
* `scanTag_eq` / `scanRun_eq` — a tag and a run of tokens;
* `compile_faultless` — nothing on the way from a source to an artifact traps.
-/

namespace Stencil.Source

open Stencil.Text

/-! ## Positions -/

/-- The line and column of the first byte of a span. -/
def scanPosition (index : LineIndex) (span : Span) : Except Trap Position := do
  let line ← match search span.first index.starts with
    | .ok line => .ok line
    | .error 0 => .ok 0
    | .error next => subtract next 1
  let start ← item index.starts.toList line
  let column ← subtract span.first start
  return ⟨min (line + 1) wordMax, column⟩

/-- The first line starts in front of everything. -/
theorem scanPosition_eq (text : List Char) (span : Span) :
    scanPosition (.ofText text) span = .ok ((LineIndex.ofText text).position span) := by
  generalize LineIndex.ofText text = index
  have seen : item index.starts.toList (index.reached span.first) =
      .ok (index.startAt (index.reached span.first)) :=
    item_eq (Array.getElem?_toList.trans (index.getElem?_starts _))
  have column := subtract_eq (index.startAt_reached_le span.first)
  rw [scanPosition, index.search_starts, LineIndex.position, index.locate_eq]
  by_cases hit : index.startAt (index.reached span.first) = span.first
  · simp only [if_pos hit, ok_bind, seen, column, pure_eq_ok]
  · have line : subtract (index.reached span.first + 1) 1 = .ok (index.reached span.first).val :=
      subtract_eq (by omega)
    simp only [if_neg hit, ok_bind, line, seen, column, pure_eq_ok]

end Stencil.Source

namespace Stencil.Tag

open Stencil.Text

/-! ## Patterns -/

/-- The searches for the tags of all kinds, in the order of trial. -/
def matchers (ignoreCase : Bool) : List (List Char → Option TagMatch) :=
  TagKind.all.map (TagKind.find? ignoreCase)

def scanFind? (ignoreCase : Bool) (kind : TagKind) (text : List Char) :
    Except Trap (Option TagMatch) := do
  let find? ← item (matchers ignoreCase) kind.ctorIdx
  return find? text

/-- The first of some kinds that occurs in a text, with its leftmost tag. -/
def scanKinds (ignoreCase : Bool) (text : List Char) : List TagKind → Except Trap (Option TagMatch)
  | [] => .ok none
  | kind :: others => do
    match ← scanFind? ignoreCase kind text with
    | some found => return some found
    | none => scanKinds ignoreCase text others

def scanClassify? (ignoreCase : Bool) (text : List Char) : Except Trap (Option TagMatch) :=
  if 3 ≤ TagKind.all.length then scanKinds ignoreCase text (TagKind.all.drop 3)
  else .error .outside

section Patterns

variable (ignoreCase : Bool) (text : List Char)

/-- The kinds are tried in the order in which they are declared. -/
theorem scanFind?_eq (kind : TagKind) :
    scanFind? ignoreCase kind text = .ok (kind.find? ignoreCase text) := by
  cases kind <;> rfl

theorem scanKinds_eq (kinds : List TagKind) :
    scanKinds ignoreCase text kinds = .ok (kinds.findSome? fun kind => kind.find? ignoreCase text) := by
  induction kinds with
  | nil => rfl
  | cons kind others ih =>
    rw [scanKinds, scanFind?_eq, List.findSome?_cons, ok_bind]
    cases kind.find? ignoreCase text with
    | some found => rfl
    | none => exact ih

theorem scanClassify?_eq : scanClassify? ignoreCase text = .ok (classify? ignoreCase text) :=
  scanKinds_eq ignoreCase text TagKind.ordinary

end Patterns

/-! ## Parentheses -/

/-- The arguments of a call stand in parentheses. -/
theorem argument?_functionCall {ignoreCase : Bool} {text arguments : List Char} {found : TagMatch}
    (classified : classify? ignoreCase text = some found) (call : found.kind = .functionCall)
    (second : found.argument? 2 = some arguments) : ∃ inner, arguments = '(' :: (inner ++ [')']) := by
  obtain ⟨rest, -, fits⟩ := classify?_spec classified
  rw [call] at fits
  obtain ⟨⟨body, rest⟩, -, fits⟩ := Option.bind_eq_some_iff.1 fits
  obtain ⟨-, -, ends⟩ := Option.bind_eq_some_iff.1 fits
  simp only [Option.bind_eq_bind, Option.bind_eq_some_iff, Prod.exists, Option.pure_def,
    Option.orElse_eq_or, Option.or_eq_some_iff, Option.map_eq_some_iff, Option.some.injEq] at ends
  unfold TagMatch.argument? at second
  rcases ends with ⟨parenthesis, inner, opens, arguments, closes, same⟩ | ⟨-, body, after, ends, same⟩
  · obtain ⟨rfl, -⟩ := fixed?_symbols (by decide) opens
    obtain ⟨inner, -, rfl, -⟩ := callEnd?_spec closes
    rw [← same] at second
    exact ⟨inner, by simpa using second.symm⟩
  · rw [← same] at second
    simp at second

end Stencil.Tag

namespace Stencil.Program

open Stencil.Expr (scanResolve scanResolve_eq scanModifiers scanModifiers_eq)
open Stencil.Source (Span LineIndex scanPosition scanPosition_eq)
open Stencil.Tag
open Stencil.Template
open Stencil.Text

/-! ## Regions -/

def scanRegion? (options : CompileOptions) (region : Region) (text : List Char) :
    Except Trap (Option (Region × List Instruction)) := do
  let closes (kind : TagKind) : Except Trap Bool :=
    Option.isSome <$> scanFind? options.caseInsensitiveTags kind text
  if region ≠ .noParse && (← closes .rawCodeClose) && !options.allowRawCode then
    return some (region.leave .ignored, [.notice rawCodeCloseNotice])
  else if region = .rawCode && (← closes .rawCodeClose) then
    return some (.markup, [.rawCodeClose])
  else if region ≠ .noParse && (← closes .ignoreClose) then
    return some (region.leave .ignored, [])
  else if region = .ignored then
    return some (.ignored, [])
  else if ← closes .noParseClose then
    return some (region.leave .noParse, [])
  else if region = .markup then return none
  else return some (region, [.text text])

theorem scanRegion?_eq (options : CompileOptions) (region : Region) (text : List Char) :
    scanRegion? options region text = .ok (settleRegion? options region text) := by
  unfold scanRegion? settleRegion? TagKind.occursIn
  simp only [scanFind?_eq, Functor.map, Except.map, ok_bind, pure_eq_ok, apply_ite Except.ok]

/-! ## Tags -/

def scanHeader (found : TagMatch) (level : Nat) : Except Trap Loop := do
  let outer ← subtract level 1
  let collection ← scanResolve (found.argument 1) outer none
  let source := match collection.expr with
    | .code code =>
      if code.contains '(' then LoopSource.computed (.code code)
      else if code.contains '$' then .direct code
      else .direct ('$' :: code)
    | expr => .computed expr
  let defaultKey := "$key".toList ++ decimal level
  let (key, value) := match found.argument? 2, found.argument? 3 with
    | some key, some value => (key, value)
    | some value, none => (defaultKey, value)
    | none, _ => (defaultKey, "$value".toList ++ decimal level)
  return ⟨level, source, key, value⟩

theorem scanHeader_eq (found : TagMatch) {level : Nat} (inside : 0 < level) :
    scanHeader found level = .ok (loopHeader found level) := by
  rw [scanHeader, subtract_eq inside]
  simp only [ok_bind, scanResolve_eq]
  rfl

namespace Compiler

variable (compiler : Compiler) (origin : Origin)

def scanTarget (path : List Char) (level : Nat) : Except Trap IncludeTarget := do
  let directory := origin.directory
  let folder := (stripStart? compiler.options.templateDir directory).getD directory
  if path.contains '$' then
    let reduced ← scanReducePath folder
    let computed ← scanResolve path level none
    return .dynamic reduced computed.expr
  else
    let reduced ← scanReducePath (folder ++ path)
    return .fixed reduced

theorem scanTarget_eq (path : List Char) (level : Nat) :
    compiler.scanTarget origin path level = .ok (compiler.includeTarget origin path level) := by
  unfold scanTarget includeTarget
  simp only [scanReducePath_eq, scanResolve_eq, ok_bind, pure_eq_ok]
  split <;> rfl

def scanPlace (lines : LineIndex) (span : Span) : Except Trap (List Char) := do
  let position ← scanPosition lines span
  return " in ".toList ++ origin.render ++ " at ".toList ++ position.render

def scanJump (lines : LineIndex) (state : State) (span : Span) (kind : TagKind)
    (instruction : Instruction) : Except Trap Effect := do
  if state.loops.isEmpty then
    let here ← scanPlace origin lines span
    let stray : Event :=
      ⟨.warn, .compiler, '{' :: kind.name ++ "\x7d outside of a loop".toList ++ here⟩
    return { state, instructions := [instruction], events := [stray] }
  else return { state, instructions := [instruction] }

def scanTag (lines : LineIndex) (state : State) (span : Span) (found : TagMatch) :
    Except Trap (Except TemplateError Effect) :=
  let level := state.loops.length
  let emit (instruction : Instruction) : Except TemplateError Effect :=
    .ok { state, instructions := [instruction] }
  match found.kind with
  | .inclusion => do
    let target ← compiler.scanTarget origin (found.argument 1) level
    return emit (.inclusion target)
  | .loopOpen => do
    -- The loop that is opened counts already.
    let header ← scanHeader found (level + 1)
    return .ok { state := { state with loops := span :: state.loops }
                 instructions := [.loopOpen header] }
  | .loopBreak => do
    let effect ← scanJump origin lines state span .loopBreak .loopBreak
    return .ok effect
  | .loopContinue => do
    let effect ← scanJump origin lines state span .loopContinue .loopContinue
    return .ok effect
  | .ifOpen => do
    let condition ← scanResolve (found.argument 1) level none
    return .ok { state := { state with conditionals := span :: state.conditionals }
                 instructions := [.ifOpen condition.expr] }
  | .elseIf => do
    let condition ← scanResolve (found.argument 1) level none
    return emit (.elseIf condition.expr)
  | .autoescapeClose =>
    match state.escapes with
    | [] => do
      let here ← scanPlace origin lines span
      let stray : Event :=
        ⟨.warn, .compiler, "\x7b/autoescape\x7d with no open block".toList ++ here⟩
      return .ok { state, events := [stray] }
    | _ :: rest => return .ok { state := { state with escapes := rest } }
  | .functionCall =>
    let function := replaceChar '/' ['\\'] (found.argument 1)
    match found.argument? 2 with
    | some arguments => do
      let stop ← subtract (byteLength arguments) 1
      -- What stands between the parentheses.
      let inner ← slice arguments 1 stop
      let given ← scanResolve inner level none
      return emit (.output (.callWith function given.expr))
    | none => return emit (.output (.call function))
  | .ternary => do
    let charset? := compiler.charset? state
    let condition ← scanResolve (found.argument 1) level charset?
    let ifTrue ← scanResolve (found.argument 2) level charset?
    let ifFalse ← scanResolve (found.argument 3) level charset?
    return emit (.output (.ternary condition.expr ifTrue.expr ifFalse.expr))
  | .variableTag => do
    let resolved ← scanResolve (withoutBraces found.whole) level (compiler.charset? state)
    return emit (if resolved.isOutput then .output resolved.expr else .statement resolved.expr)
  | .constantTag => do
    let named ← scanModifiers (constantText found.whole)
    return emit (.output named)
  -- Other tags are neither cut nor counted.
  | .ignoreOpen | .noParseOpen | .rawCodeOpen | .loopClose | .otherwise | .ifClose
  | .autoescapeOpen | .rawCodeClose | .ignoreClose | .noParseClose =>
    return compiler.ordinaryTag origin lines state span found

def scanMarkup (lines : LineIndex) (state : State) (span : Span) (text : List Char) :
    Except Trap (Except TemplateError Effect) := do
  match ← scanRegion? compiler.options state.region text with
  | some (region, instructions) => return .ok { state := { state with region }, instructions }
  | none =>
    match ← scanClassify? compiler.options.caseInsensitiveTags text with
    | some found => compiler.scanTag origin lines state span found
    | none => return .ok { state, instructions := compiler.customTags text }

def scanToken (lines : LineIndex) (state : State) (token : Token) :
    Except Trap (Except TemplateError Effect) :=
  match token.kind with
  | .comment => .ok (.ok { state })
  | .literal =>
    .ok (.ok { state, instructions := if state.region = .ignored then [] else [.text token.text] })
  | .candidate => compiler.scanMarkup origin lines state token.span token.text

def scanRun (lines : LineIndex) (state : State) : List Token → Except Trap Run
  | [] => .ok ⟨[], .ok (state, [])⟩
  | token :: tokens => do
    match ← compiler.scanToken origin lines state token with
    | .error error => return ⟨[], .error error⟩
    | .ok effect =>
      let later ← scanRun lines effect.state tokens
      return ⟨effect.events ++ later.events,
        later.result.map fun (final, instructions) => (final, effect.instructions ++ instructions)⟩

def scanCompile (source : List Char) : Except Trap Compilation := do
  let source := normalizeLineEndings source
  let tokens ← scanTokens compiler.options.stripComments source 0 0
  let ran ← compiler.scanRun origin (.ofText source) {} tokens
  match ran.result with
  | .error error => return ⟨ran.events, .error error⟩
  | .ok (state, instructions) =>
    match unclosed? origin state with
    | some error => return ⟨ran.events, .error error⟩
    | none =>
      let message := "compiled ".toList ++ origin.render ++ ": ".toList ++ decimal tokens.length ++
        " tokens, ".toList ++ decimal instructions.length ++ " instructions".toList
      return ⟨ran.events ++ [⟨.debug, .compiler, message⟩], .ok ⟨instructions⟩⟩

section Faultless

variable (source : List Char) (state : State) (span : Span)

theorem scanPlace_eq :
    scanPlace origin (.ofText source) span = .ok (place origin (.ofText source) span) := by
  rw [scanPlace, scanPosition_eq]
  rfl

theorem scanJump_eq (kind : TagKind) (instruction : Instruction) :
    scanJump origin (.ofText source) state span kind instruction =
      .ok (loopJump origin (.ofText source) state span kind instruction) := by
  unfold scanJump loopJump
  rw [scanPlace_eq]
  split <;> simp_all

theorem scanTag_eq {text : List Char} {found : TagMatch}
    (classified : classify? compiler.options.caseInsensitiveTags text = some found) :
    compiler.scanTag origin (.ofText source) state span found =
      .ok (compiler.ordinaryTag origin (.ofText source) state span found) := by
  unfold scanTag ordinaryTag
  cases kind : found.kind with
  | inclusion => simp only [scanTarget_eq, ok_bind, pure_eq_ok]
  | loopOpen => simp only [scanHeader_eq found (Nat.succ_pos state.loops.length), ok_bind, pure_eq_ok]
  | loopBreak | loopContinue =>
    simp only [scanJump_eq, ok_bind, pure_eq_ok]
  | autoescapeClose =>
    cases state.escapes with
    | nil => simp only [scanPlace_eq, ok_bind, pure_eq_ok]
    | cons => rfl
  | functionCall =>
    cases second : found.argument? 2 with
    | none => rfl
    | some arguments =>
      -- The parentheses are a byte each, so what is between them can be cut out.
      obtain ⟨inner, rfl⟩ := argument?_functionCall classified kind second
      have length : byteLength ('(' :: (inner ++ [')'])) = 1 + byteLength inner + 1 := by
        rw [byteLength_cons, byteLength_append, ← Nat.add_assoc]
        rfl
      have stop : subtract (byteLength ('(' :: (inner ++ [')']))) 1 = .ok (1 + byteLength inner) := by
        rw [length, subtract_eq (Nat.le_add_left 1 _), Nat.add_sub_cancel]
      have cut : slice ('(' :: (inner ++ [')'])) 1 (1 + byteLength inner) = .ok inner :=
        slice_append ['('] inner [')']
      simp only [stop, cut, scanResolve_eq, ok_bind, pure_eq_ok, List.tail_cons, List.dropLast_concat]
  | ifOpen | elseIf | ternary | variableTag =>
    simp only [scanResolve_eq, ok_bind, pure_eq_ok]
  | constantTag => simp only [scanModifiers_eq, ok_bind, pure_eq_ok]
  | _ => rfl

theorem scanMarkup_eq (text : List Char) :
    compiler.scanMarkup origin (.ofText source) state span text =
      .ok (compiler.candidate origin (.ofText source) state span text) := by
  rw [scanMarkup, candidate, scanRegion?_eq, ok_bind]
  cases settleRegion? compiler.options state.region text with
  | some settled => rfl
  | none =>
    simp only [scanClassify?_eq, ok_bind]
    cases classified : classify? compiler.options.caseInsensitiveTags text with
    | some found => exact compiler.scanTag_eq origin source state span classified
    | none => rfl

theorem scanToken_eq (token : Token) :
    compiler.scanToken origin (.ofText source) state token =
      .ok (compiler.step origin (.ofText source) state token) := by
  unfold scanToken step
  cases token.kind with
  | comment | literal => rfl
  | candidate => exact compiler.scanMarkup_eq origin source state token.span token.text

theorem scanRun_eq (tokens : List Token) :
    compiler.scanRun origin (.ofText source) state tokens =
      .ok (compiler.run origin (.ofText source) state tokens) := by
  induction tokens generalizing state with
  | nil => rfl
  | cons token tokens ih =>
    rw [scanRun, scanToken_eq, ok_bind, run]
    cases compiler.step origin (.ofText source) state token with
    | error error => rfl
    | ok effect =>
      simp only [ih, ok_bind]
      rfl

theorem scanCompile_eq :
    compiler.scanCompile origin source = .ok (compiler.compile source origin) := by
  simp only [scanCompile, compile, scanTokens_eq, scanRun_eq, ok_bind]
  generalize compiler.run origin (.ofText (normalizeLineEndings source)) {}
    (tokenize compiler.options.stripComments (normalizeLineEndings source)) = ran
  cases ran.result with
  | error error => rfl
  | ok finished =>
    obtain ⟨final, instructions⟩ := finished
    dsimp only
    cases unclosed? origin final <;> rfl

end Faultless

end Compiler

/-- Slices are defined between characters, items within their list, and differences
    from zero on.  Whatever is compiled, all of them are defined on the way, and the
    result is what the compiler computes. -/
theorem compile_faultless :
    (∀ text start stop middle, slice text start stop = .ok middle ↔
      ∃ before after, text = before ++ (middle ++ after) ∧ byteLength before = start ∧
        byteLength before + byteLength middle = stop) ∧
    (∀ (α : Type) (items : List α) index found,
      item items index = .ok found ↔ items[index]? = some found) ∧
    (∀ left right difference,
      subtract left right = .ok difference ↔ difference + right = left) ∧
    (∀ stripComments source,
      scanTokens stripComments source 0 0 = .ok (tokenize stripComments source)) ∧
    (∀ (compiler : Compiler) source origin,
      compiler.scanCompile origin source = .ok (compiler.compile source origin)) ∧
    (∀ text level charset?,
      scanResolve text level charset? = .ok (Expr.resolve text level charset?)) ∧
    (∀ format program, scanArtifact format program = .ok (format.emit program)) ∧
    ∀ path, scanReducePath path = .ok (reducePath path) :=
  ⟨fun _ _ _ _ => slice_eq_ok_iff, fun _ _ _ _ => item_eq_ok_iff, fun _ _ _ => subtract_eq_ok_iff,
    scanTokens_eq, fun compiler source origin => compiler.scanCompile_eq origin source,
    scanResolve_eq, scanArtifact_eq, scanReducePath_eq⟩

end Stencil.Program
