import Stencil.Project.Clean

/-! # Command line arguments

A command line is a command with options and texts.  Options for all commands may
stand in front of the command or behind it; behind it they win.

* `Command` / `Invocation` — what is asked for;
* `Refusal` — why nothing is run;
* `readArguments` — the options and texts of one command;
* `Invocation.ofArguments` — a whole command line.
-/

namespace Stencil

open Stencil.Program (Format)
open Stencil.Text (splitFirst?)

/-- What can be asked for. -/
inductive Command where
  /-- Compile a named template into the cache. -/
  | compile (template : List Char) (force : Bool) (format : Format)
  /-- Compile a text, or what is read from the input. -/
  | string (text : Option (List Char)) (format : Format) (print : Bool)
  /-- Report errors in template files. -/
  | check (paths : List (List Char))
  /-- Remove artifacts that were not written for a number of seconds. -/
  | clean (expire : Nat)
  deriving DecidableEq, Repr

/-- A command with the options for all commands. -/
structure Invocation where
  command : Command
  quiet : Bool := false
  verbose : Nat := 0
  project : Option (List Char) := none
  deriving DecidableEq, Repr

/-- Why nothing is run.  The first two are asked for, the others are mistakes. -/
inductive Refusal where
  | help
  | version
  /-- Nothing was given at all. -/
  | nothingGiven
  | missingCommand
  | unknownCommand
  | missingArgument
  | unknownArgument
  /-- An option without its value, or with a value that is none of its choices. -/
  | badChoice
  /-- A value that cannot be read. -/
  | badValue
  /-- A value for an option that takes none. -/
  | needlessValue
  /-- An option given twice, or two that exclude each other. -/
  | conflict
  deriving DecidableEq, Repr

/-- The exit code of a refusal. -/
def Refusal.exitCode : Refusal → Nat
  | .help | .version => 0
  | _ => 2

namespace Command

/-! ## Options -/

/-- Where options can be given: in front of a command or behind it. -/
inductive Scope where
  | front
  | compile
  | string
  | check
  | clean
  deriving DecidableEq, Repr

/-- The options. -/
inductive Switch where
  | quiet
  | verbose
  | project
  | help
  | version
  | force
  | emit
  | print
  | expire
  deriving DecidableEq, Repr

/-- All options. -/
def Switch.all : List Switch :=
  [.quiet, .verbose, .project, .help, .version, .force, .emit, .print, .expire]

/-- The name of an option after two dashes. -/
def Switch.long : Switch → List Char
  | .quiet => "quiet".toList
  | .verbose => "verbose".toList
  | .project => "project".toList
  | .help => "help".toList
  | .version => "version".toList
  | .force => "force".toList
  | .emit => "emit".toList
  | .print => "print".toList
  | .expire => "expire".toList

/-- The letter of an option after one dash. -/
def Switch.short? : Switch → Option Char
  | .quiet => some 'q'
  | .verbose => some 'v'
  | .help => some 'h'
  | .version => some 'V'
  | _ => none

/-- Whether a value belongs to an option. -/
def Switch.takesValue : Switch → Bool
  | .project | .emit | .expire => true
  | _ => false

/-- The options that can be given in a scope. -/
def Scope.accepts : Scope → Switch → Bool
  | _, .quiet | _, .verbose | _, .project | _, .help => true
  | scope, .version => scope == .front
  | scope, .force => scope == .compile
  | scope, .emit => scope == .compile || scope == .string
  | scope, .print => scope == .string
  | scope, .expire => scope == .clean

/-- Whether another text can be given in a scope that has `count` of them. -/
def Scope.hasRoom : Scope → (count : Nat) → Bool
  | .check, _ => true
  | .compile, count | .string, count => count == 0
  | _, _ => false

/-- The commands by their names. -/
def scopeOf? (name : List Char) : Option Scope :=
  [("compile".toList, .compile), ("string".toList, .string), ("check".toList, .check),
   ("clean".toList, .clean)].lookup name

/-- Whether a word is a command, help among them. -/
def isCommand (word : List Char) : Bool := (scopeOf? word).isSome || word = "help".toList

/-! ## What is given -/

/-- The options and texts given in a scope. -/
structure Given where
  quiet : Bool := false
  verbose : Nat := 0
  project : Option (List Char) := none
  force : Bool := false
  format : Option Format := none
  print : Bool := false
  expire : Option Nat := none
  texts : List (List Char) := []
  deriving DecidableEq, Repr

/-- A number of 64 bits; a plus may stand in front of it. -/
def word64? (text : List Char) : Option Nat := do
  let digits := (['+'].isPrefixOf? text).getD text
  guard (!digits.isEmpty && digits.all Char.isDigit)
  let value : Nat := digits.foldl (fun sum c => 10 * sum + (c.toNat - 48)) 0
  guard (value < UInt64.size)
  return value

/-- The output format with a name. -/
def format? (name : List Char) : Option Format :=
  [("php".toList, Format.php), ("json".toList, Format.json)].lookup name

/-- Turns on an option that may be given once. -/
def once (given : Bool) (rest : Given) : Except Refusal Given :=
  if given then .error .conflict else .ok rest

/-- Adds an option without a value. -/
def Given.add (given : Given) : Switch → Except Refusal Given
  | .help => .error .help
  | .version => .error .version
  | .verbose => .ok { given with verbose := given.verbose + 1 }
  | .quiet => once given.quiet { given with quiet := true }
  | .force => once given.force { given with force := true }
  | .print => once given.print { given with print := true }
  | .project | .emit | .expire => .error .badChoice

/-- Adds an option with a value. -/
def Given.addValue (given : Given) (value : List Char) : Switch → Except Refusal Given
  | .project => once given.project.isSome { given with project := some value }
  | .emit => do
    let given ← once given.format.isSome given
    match format? value with
    | some format => .ok { given with format := some format }
    | none => .error .badChoice
  | .expire => do
    let given ← once given.expire.isSome given
    match word64? value with
    | some expire => .ok { given with expire := some expire }
    | none => .error .badValue
  | _ => .error .needlessValue

/-- An option that waits for its value, or a value that was not looked at yet. -/
inductive Pending where
  | nothing
  | option (switch : Switch)
  | value (switch : Switch) (value : List Char)
  deriving DecidableEq, Repr

/-- Adds the pending option. -/
def Given.settle (given : Given) : Pending → Except Refusal Given
  | .nothing => .ok given
  | .option switch => given.add switch
  | .value switch value => given.addValue value switch

/-! ## Reading -/

/-- Adds the options of letters after one dash. -/
def readLetters (scope : Scope) (pending : Pending) (given : Given) :
    List Char → Except Refusal Given
  | [] => .ok given
  | letter :: letters =>
    match Switch.all.find? fun switch => switch.short? = some letter && scope.accepts switch with
    | none => .error .unknownArgument
    | some switch => do
      let given ← given.settle pending
      readLetters scope .nothing (← given.add switch) letters

/-- Adds a text, or says why there is no room for it. -/
def readText (scope : Scope) (pending : Pending) (given : Given) (text : List Char) :
    Except Refusal Given :=
  if scope.hasRoom given.texts.length then do
    let given ← given.settle pending
    return { given with texts := given.texts ++ [text] }
  else .error (if scope = .front then .unknownCommand else .unknownArgument)

/-- Adds the texts after two dashes. -/
def readTexts (scope : Scope) (pending : Pending) (given : Given) :
    List (List Char) → Except Refusal Given
  | [] => given.settle pending
  | text :: texts => do
    if scope = .front && isCommand text then .error .unknownArgument
    else readTexts scope .nothing (← readText scope pending given text) texts

/-- Reads the options and texts of a scope.  In front, stops at a command. -/
def readArguments (scope : Scope) (pending : Pending) (given : Given) :
    List (List Char) → Except Refusal (Given × List (List Char))
  | [] => return (← given.settle pending, [])
  | argument :: rest => do
    let waits := match pending with
      | .option _ => true
      | _ => false
    -- The word behind an option that waits is its value, not a command.
    if scope = .front && !waits && isCommand argument then
      return (← given.settle pending, argument :: rest)
    match argument with
    | ['-', '-'] => return (← readTexts scope pending given rest, [])
    | '-' :: '-' :: long =>
      let (name, value) := match splitFirst? ['='] long with
        | some (name, value) => (name, some value)
        | none => (long, none)
      -- A pending option is looked at only once the next one is known.
      match Switch.all.find? fun switch => switch.long = name && scope.accepts switch, value with
      | none, _ => .error .unknownArgument
      | some switch, some value =>
        if switch.takesValue then
          let given ← given.settle pending
          readArguments scope .nothing (← given.addValue value switch) rest
        else .error .needlessValue
      | some switch, none =>
        let given ← given.settle pending
        if switch.takesValue then readArguments scope (.option switch) given rest
        else readArguments scope .nothing (← given.add switch) rest
    | '-' :: letter :: letters =>
      readArguments scope .nothing (← readLetters scope pending given (letter :: letters)) rest
    | text =>
      match pending with
      | .option switch => readArguments scope (.value switch text) given rest
      | _ => readArguments scope .nothing (← readText scope pending given text) rest

/-- Options that exclude each other must not be given together. -/
def Given.checked (given : Given) : Except Refusal Given :=
  if given.quiet && 0 < given.verbose then .error .conflict else .ok given

/-- The command of a scope with what is given behind it. -/
def ofGiven (scope : Scope) (given : Given) : Except Refusal Command :=
  let format := given.format.getD .php
  match scope, given.texts with
  | .compile, [template] => .ok (.compile template given.force format)
  | .string, texts => .ok (.string texts.head? format given.print)
  | .check, path :: paths => .ok (.check (path :: paths))
  | .clean, _ => .ok (.clean (given.expire.getD Project.defaultExpire))
  | _, _ => .error .missingArgument

end Command

/-- What a command line asks for. -/
def Invocation.ofArguments (arguments : List (List Char)) : Except Refusal Invocation := do
  let (front, rest) ← Command.readArguments .front .nothing {} arguments
  match rest with
  | [] => .error (if front = {} then .nothingGiven else .missingCommand)
  | word :: rest =>
    match Command.scopeOf? word with
    | none =>
      match rest with
      | [] => .error .help
      | [topic] => .error (if Command.isCommand topic then .help else .unknownCommand)
      | _ => .error .unknownCommand
    | some scope => do
      let (given, _) ← Command.readArguments scope .nothing {} rest
      let given ← given.checked
      let command ← Command.ofGiven scope given
      -- Mistakes behind the command come before those in front of it.
      let front ← front.checked
      return {
        command
        quiet := front.quiet || given.quiet
        verbose := if given.verbose = 0 then front.verbose else given.verbose
        project := given.project <|> front.project }

end Stencil
