import Stencil.Program.Json
import Stencil.Proofs.JsonText

/-! # Programs in JSON

The JSON artifact of a program says all that the program says: each record and
each choice between forms is decoded as what it was written for.  The only
numbers in a program are the levels of its loops, which are numbers of 64 bits.

* `Expr.ofJson?_toJson`, `Instruction.ofJson?_toJson` — one form at a time;
* `emitJson_decodes` — whole artifacts.
-/

namespace Stencil

open Stencil.Json (variant record optional)

/-! ## Expressions -/

theorem Json.optional?_optional (text : Option (List Char)) :
    Json.optional? (some (optional text)) = some text := by
  cases text <;> rfl

theorem Expr.toJson_ne_null (expr : Expr) : expr.toJson ≠ .null := by
  cases expr <;> simp [Expr.toJson, variant]

theorem Expr.ofJson?_toJson (expr : Expr) : Expr.ofJson? expr.toJson = some expr := by
  induction expr with
  | code text => simp [Expr.toJson, variant, Expr.ofJson?]
  | modifier name target arguments ih =>
    simp only [Expr.toJson, variant, record, List.map_cons, List.map_nil, Expr.ofJson?]
    show (do
      let arguments ← Json.optional? (some (optional arguments))
      return modifier name (← ofJson? target.toJson) arguments : Option Expr) = _
    rw [Json.optional?_optional, ih]
    rfl
  | escape inner charset ih =>
    simp only [Expr.toJson, variant, record, List.map_cons, List.map_nil, Expr.ofJson?]
    show (do return escape (← ofJson? inner.toJson) charset : Option Expr) = _
    rw [ih]
    rfl
  | ternary condition ifTrue ifFalse ihCondition ihTrue ihFalse =>
    simp only [Expr.toJson, variant, record, List.map_cons, List.map_nil, Expr.ofJson?]
    show (do
      return ternary (← ofJson? condition.toJson) (← ofJson? ifTrue.toJson)
        (← ofJson? ifFalse.toJson) : Option Expr) = _
    rw [ihCondition, ihTrue, ihFalse]
    rfl
  | call function =>
    simp only [Expr.toJson, variant, record, List.map_cons, List.map_nil, Expr.ofJson?]
    rfl
  | callWith function arguments ih =>
    simp only [Expr.toJson, variant, record, List.map_cons, List.map_nil, Expr.ofJson?]
    -- A call without arguments has null in their place, which no expression is written as.
    have filled := arguments.toJson_ne_null
    revert ih filled
    generalize arguments.toJson = value
    intro ih filled
    cases value with
    | null => contradiction
    | _ =>
      show (do return callWith function (← ofJson? _) : Option Expr) = _
      rw [ih]
      rfl

/-! ## Instructions -/

namespace Program

theorem LoopSource.ofJson?_toJson (source : LoopSource) :
    LoopSource.ofJson? source.toJson = some source := by
  cases source with
  | direct code => rfl
  | computed expr =>
    show (do return .computed (← Expr.ofJson? expr.toJson) : Option LoopSource) = _
    rw [Expr.ofJson?_toJson]
    rfl

/-- The level of a loop is a number of 64 bits. -/
theorem Loop.ofJson?_toJson {loop : Loop} (fits : loop.level < UInt64.size) :
    Loop.ofJson? loop.toJson = some loop := by
  have level : (Json.number loop.level).natural? = some loop.level := if_pos fits
  show (do
    return ⟨← (Json.number loop.level).natural?, ← LoopSource.ofJson? loop.source.toJson,
      loop.key, loop.value⟩ : Option Loop) = _
  rw [level, LoopSource.ofJson?_toJson]
  rfl

theorem IncludeTarget.ofJson?_toJson (target : IncludeTarget) :
    IncludeTarget.ofJson? target.toJson = some target := by
  cases target with
  | fixed path => rfl
  | dynamic folder path =>
    show (do return .dynamic folder (← Expr.ofJson? path.toJson) : Option IncludeTarget) = _
    rw [Expr.ofJson?_toJson]
    rfl

theorem mapM_map_eq_some {α β : Type} (write : α → β) (read? : β → Option α) (items : List α)
    (back : ∀ item ∈ items, read? (write item) = some item) :
    (items.map write).mapM read? = some items := by
  induction items with
  | nil => rfl
  | cons item items ih =>
    rw [List.map_cons, List.mapM_cons, back item (.head _),
      ih fun other listed => back other (.tail _ listed)]
    rfl

theorem stringsOfJson?_map (values : List (List Char)) :
    stringsOfJson? (.array (values.map .string)) = some values :=
  mapM_map_eq_some _ _ values fun _ _ => rfl

open Stencil.Tag (CaptureGroup TagMatches)

theorem groupOfJson?_groupToJson (group : CaptureGroup) :
    groupOfJson? (groupToJson group) = some group := by
  show (do
    return ⟨← Json.optional? (some (optional group.name)),
      ← stringsOfJson? (.array (group.values.map .string))⟩ : Option CaptureGroup) = _
  rw [Json.optional?_optional, stringsOfJson?_map]
  rfl

theorem matchesOfJson?_matchesToJson (tagMatches : TagMatches) :
    matchesOfJson? (matchesToJson tagMatches) = some tagMatches := by
  show (do return ⟨← (tagMatches.groups.map groupToJson).mapM groupOfJson?⟩ : Option TagMatches) = _
  rw [mapM_map_eq_some _ _ _ fun group _ => groupOfJson?_groupToJson group]
  rfl

/-- Whether the numbers of an instruction are numbers of 64 bits. -/
def Instruction.Fits : Instruction → Prop
  | .loopOpen header => header.level < UInt64.size
  | _ => True

theorem Instruction.ofJson?_toJson {instruction : Instruction} (fits : instruction.Fits) :
    Instruction.ofJson? instruction.toJson = some instruction := by
  cases instruction with
  | text content => rfl
  | notice message => rfl
  | loopClose | loopBreak | loopContinue | otherwise | ifClose | rawCodeOpen | rawCodeClose => rfl
  | output expr =>
    show (do return .output (← Expr.ofJson? expr.toJson) : Option Instruction) = _
    rw [Expr.ofJson?_toJson]
    rfl
  | statement expr =>
    show (do return .statement (← Expr.ofJson? expr.toJson) : Option Instruction) = _
    rw [Expr.ofJson?_toJson]
    rfl
  | ifOpen condition =>
    show (do return .ifOpen (← Expr.ofJson? condition.toJson) : Option Instruction) = _
    rw [Expr.ofJson?_toJson]
    rfl
  | elseIf condition =>
    show (do return .elseIf (← Expr.ofJson? condition.toJson) : Option Instruction) = _
    rw [Expr.ofJson?_toJson]
    rfl
  | loopOpen header =>
    show (do return .loopOpen (← Loop.ofJson? header.toJson) : Option Instruction) = _
    rw [Loop.ofJson?_toJson fits]
    rfl
  | inclusion target =>
    show (do return .inclusion (← IncludeTarget.ofJson? target.toJson) : Option Instruction) = _
    rw [IncludeTarget.ofJson?_toJson]
    rfl
  | customTag name tagMatches =>
    show (do return .customTag name (← matchesOfJson? (matchesToJson tagMatches)) :
      Option Instruction) = _
    rw [matchesOfJson?_matchesToJson]
    rfl

/-! ## Programs -/

open Stencil.Json (read? read?_pretty)

/-- Whether all numbers of a program are numbers of 64 bits. -/
def Fits (program : Program) : Prop :=
  ∀ instruction ∈ program.instructions, instruction.Fits

theorem ofJson?_toJson {program : Program} (fits : program.Fits) :
    ofJson? program.toJson = some program := by
  show (do return ⟨← (program.instructions.map Instruction.toJson).mapM Instruction.ofJson?⟩ :
    Option Program) = _
  rw [mapM_map_eq_some _ _ _ fun _ listed => Instruction.ofJson?_toJson (fits _ listed)]
  rfl

theorem ofJson?_read?_emitJson {program : Program} (fits : program.Fits) :
    (read? program.emitJson).bind ofJson? = some program := by
  rw [emitJson, read?_pretty, Option.bind_some, ofJson?_toJson fits]

/-- The artifact of a program is decoded as that program, and is the artifact of no
    other. -/
theorem emitJson_decodes (program : Program) (fits : program.Fits) :
    (read? program.emitJson).bind ofJson? = some program ∧
      ∀ other : Program, other.Fits → other.emitJson = program.emitJson → other = program := by
  refine ⟨ofJson?_read?_emitJson fits, ?_⟩
  intro other otherFits same
  have decoded := ofJson?_read?_emitJson otherFits
  rw [same, ofJson?_read?_emitJson fits] at decoded
  exact (Option.some.inj decoded).symm

theorem emitJson_decodes_escapes :
    let program : Program := ⟨[.text "\"\\\n\x00é".toList,
      .loopOpen ⟨18446744073709551615, .computed (.callWith [] (.modifier [] (.code []) none)), [], []⟩,
      .loopClose]⟩
    program.Fits ∧ (read? program.emitJson).bind ofJson? = some program := by
  intro program
  have fits : program.Fits := by simp [program, Fits, Instruction.Fits, UInt64.size]
  exact ⟨fits, (emitJson_decodes program fits).1⟩

end Program

end Stencil
