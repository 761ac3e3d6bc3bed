import Stencil.Json.Printer
import Stencil.Json.Reader
import Stencil.Program.Instruction

/-! # Programs as JSON

A program is written as an object with the list of its instructions.  A choice
between forms is an object whose only member is named after the form, or the
bare name where the form holds nothing; the fields of a record are the members
of an object, in order.

* `Expr.toJson` / `Expr.ofJson?` — expressions;
* `Instruction.toJson` / `Instruction.ofJson?` — instructions;
* `Program.toJson` / `Program.ofJson?` — programs;
* `Program.emitJson` — the artifact of a program.
-/

namespace Stencil.Json

/-- A form that holds a value. -/
def variant (name : String) (value : Json) : Json := .object [(name.toList, value)]

/-- A record with named fields. -/
def record (fields : List (String × Json)) : Json :=
  .object (fields.map fun (name, value) => (name.toList, value))

/-- A text, or null without one. -/
def optional : Option (List Char) → Json
  | some text => .string text
  | none => .null

/-- The text of a string value. -/
def string? : Json → Option (List Char)
  | .string text => some text
  | _ => none

/-- The number of a value that is a 64-bit natural number. -/
def natural? : Json → Option Nat
  | .number (.ofNat n) => if n < UInt64.size then some n else none
  | _ => none

/-- The text of an optional string; without a value there is none. -/
def optional? : Option Json → Option (Option (List Char))
  | none => some none
  | some .null => some none
  | some (.string text) => some (some text)
  | some _ => none

/-- The fields of a record, by name or in their order. -/
def field? (json : Json) (index : Nat) (name : String) : Option Json :=
  match json with
  | .object members => members.lookup name.toList
  | .array items => items[index]?
  | _ => none

/-- Whether a value can be a record with a number of fields. -/
def isRecord (count : Nat) : Json → Bool
  | .object _ => true
  | .array items => items.length == count
  | _ => false

end Stencil.Json

namespace Stencil

open Stencil.Json (variant record optional)

/-! ## Expressions -/

/-- An expression as a JSON value. -/
def Expr.toJson : Expr → Json
  | .code text => variant "Code" (.string text)
  | .modifier name target arguments =>
    variant "Modifier" (record [("name", .string name), ("target", target.toJson),
      ("args", optional arguments)])
  | .escape inner charset =>
    variant "Escape" (record [("inner", inner.toJson), ("charset", .string charset)])
  | .ternary condition ifTrue ifFalse =>
    variant "Ternary" (record [("condition", condition.toJson), ("if_true", ifTrue.toJson),
      ("if_false", ifFalse.toJson)])
  | .call function =>
    variant "Invoke" (record [("function", .string function), ("arguments", .null)])
  | .callWith function arguments =>
    variant "Invoke" (record [("function", .string function), ("arguments", arguments.toJson)])

/-- The parts of an object that stands for one form: the name of the form and
    the value it holds. -/
def Json.variant? : Json → Option (List Char × Json)
  | .object [(name, value)] => some (name, value)
  | _ => none

/-- The expression a JSON value stands for. -/
def Expr.ofJson? (json : Json) : Option Expr :=
  match json with
  | .object [(form, .string text)] =>
    if form = "Code".toList then some (.code text) else none
  | .object [(form, .object members)] =>
    let part (name : String) : Option Expr :=
      match _found : members.lookup name.toList with
      | some value => Expr.ofJson? value
      | none => none
    let text (name : String) : Option (List Char) :=
      (members.lookup name.toList).bind Json.string?
    match String.ofList form with
    | "Modifier" => do
      let arguments ← Json.optional? (members.lookup "args".toList)
      return .modifier (← text "name") (← part "target") arguments
    | "Escape" => do return .escape (← part "inner") (← text "charset")
    | "Ternary" => do return .ternary (← part "condition") (← part "if_true") (← part "if_false")
    | "Invoke" =>
      match members.lookup "arguments".toList with
      | none | some .null => (text "function").map .call
      | some _ => do return .callWith (← text "function") (← part "arguments")
    | _ => none
  | _ => none
termination_by sizeOf json
decreasing_by
  have := Json.sizeOf_lookup _found
  simp only [Json.object.sizeOf_spec, List.cons.sizeOf_spec, Prod.mk.sizeOf_spec]
  omega

/-! ## Instructions -/

namespace Program

open Stencil.Tag (CaptureGroup TagMatches)

/-- The source of a loop as a JSON value. -/
def LoopSource.toJson : LoopSource → Json
  | .direct code => variant "Variable" (.string code)
  | .computed expr => variant "Computed" expr.toJson

/-- The source of a loop that a JSON value stands for. -/
def LoopSource.ofJson? (json : Json) : Option LoopSource := do
  let (form, value) ← json.variant?
  match String.ofList form with
  | "Variable" => return .direct (← value.string?)
  | "Computed" => return .computed (← Expr.ofJson? value)
  | _ => none

/-- The header of a loop as a JSON value. -/
def Loop.toJson (loop : Loop) : Json :=
  record [("level", .number loop.level), ("source", loop.source.toJson),
    ("key", .string loop.key), ("value", .string loop.value)]

/-- The header of a loop that a JSON value stands for. -/
def Loop.ofJson? (json : Json) : Option Loop := do
  guard (json.isRecord 4)
  return ⟨← (← json.field? 0 "level").natural?, ← LoopSource.ofJson? (← json.field? 1 "source"),
    ← (← json.field? 2 "key").string?, ← (← json.field? 3 "value").string?⟩

/-- The target of an include as a JSON value. -/
def IncludeTarget.toJson : IncludeTarget → Json
  | .fixed path => variant "Static" (.string path)
  | .dynamic folder path =>
    variant "Dynamic" (record [("folder", .string folder), ("path", path.toJson)])

/-- The target of an include that a JSON value stands for. -/
def IncludeTarget.ofJson? (json : Json) : Option IncludeTarget := do
  let (form, value) ← json.variant?
  match String.ofList form with
  | "Static" => return .fixed (← value.string?)
  | "Dynamic" =>
    return .dynamic (← (← value.member? "folder".toList).string?)
      (← Expr.ofJson? (← value.member? "path".toList))
  | _ => none

/-- A capture group as a JSON value. -/
def groupToJson (group : CaptureGroup) : Json :=
  record [("name", optional group.name), ("values", .array (group.values.map .string))]

/-- The texts of an array of strings. -/
def stringsOfJson? : Json → Option (List (List Char))
  | .array items => items.mapM Json.string?
  | _ => none

/-- The capture group a JSON value stands for. -/
def groupOfJson? (json : Json) : Option CaptureGroup := do
  guard (json.isRecord 2)
  return ⟨← Json.optional? (json.field? 0 "name"), ← stringsOfJson? (← json.field? 1 "values")⟩

/-- The matches of a custom tag as a JSON value. -/
def matchesToJson (tagMatches : TagMatches) : Json :=
  record [("groups", .array (tagMatches.groups.map groupToJson))]

/-- The matches of a custom tag that a JSON value stands for. -/
def matchesOfJson? (json : Json) : Option TagMatches := do
  guard (json.isRecord 1)
  match ← json.field? 0 "groups" with
  | .array items => return ⟨← items.mapM groupOfJson?⟩
  | _ => none

/-- A form that holds nothing. -/
def unit (name : String) : Json := .string name.toList

/-- An instruction as a JSON value. -/
def Instruction.toJson : Instruction → Json
  | .text content => variant "Text" (.string content)
  | .output expr => variant "Output" expr.toJson
  | .statement expr => variant "Statement" expr.toJson
  | .loopOpen header => variant "LoopOpen" header.toJson
  | .loopClose => unit "LoopClose"
  | .loopBreak => unit "Break"
  | .loopContinue => unit "Continue"
  | .ifOpen condition => variant "If" condition.toJson
  | .elseIf condition => variant "ElseIf" condition.toJson
  | .otherwise => unit "Else"
  | .ifClose => unit "IfClose"
  | .rawCodeOpen => unit "RawCodeOpen"
  | .rawCodeClose => unit "RawCodeClose"
  | .notice message => variant "Notice" (.string message)
  | .inclusion target => variant "Include" target.toJson
  | .customTag name tagMatches =>
    variant "CustomTag" (record [("name", .string name), ("matches", matchesToJson tagMatches)])

/-- The instruction that the name of a form without contents stands for. -/
def Instruction.ofName? (name : List Char) : Option Instruction :=
  match String.ofList name with
  | "LoopClose" => some .loopClose
  | "Break" => some .loopBreak
  | "Continue" => some .loopContinue
  | "Else" => some .otherwise
  | "IfClose" => some .ifClose
  | "RawCodeOpen" => some .rawCodeOpen
  | "RawCodeClose" => some .rawCodeClose
  | _ => none

/-- The instruction a JSON value stands for. -/
def Instruction.ofJson? (json : Json) : Option Instruction :=
  match json with
  | .string name => ofName? name
  | _ => do
    let (form, value) ← json.variant?
    match String.ofList form with
    | "Text" => return .text (← value.string?)
    | "Output" => return .output (← Expr.ofJson? value)
    | "Statement" => return .statement (← Expr.ofJson? value)
    | "LoopOpen" => return .loopOpen (← Loop.ofJson? value)
    | "If" => return .ifOpen (← Expr.ofJson? value)
    | "ElseIf" => return .elseIf (← Expr.ofJson? value)
    | "Notice" => return .notice (← value.string?)
    | "Include" => return .inclusion (← IncludeTarget.ofJson? value)
    | "CustomTag" =>
      return .customTag (← (← value.member? "name".toList).string?)
        (← matchesOfJson? (← value.member? "matches".toList))
    | _ =>
      match value with
      | .null => ofName? form
      | _ => none

end Program

/-! ## Programs -/

/-- A program as a JSON value. -/
def Program.toJson (program : Program) : Json :=
  record [("instructions", .array (program.instructions.map Program.Instruction.toJson))]

/-- The program a JSON value stands for. -/
def Program.ofJson? (json : Json) : Option Program := do
  guard (json.isRecord 1)
  match ← json.field? 0 "instructions" with
  | .array items => return ⟨← items.mapM Program.Instruction.ofJson?⟩
  | _ => none

/-- The artifact of a program for hosts that run instructions themselves. -/
def Program.emitJson (program : Program) : List Char := program.toJson.pretty

end Stencil
