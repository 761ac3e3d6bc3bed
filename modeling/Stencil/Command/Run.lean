import Stencil.Command.Arguments
import Stencil.Command.Check
import Stencil.Command.Environment
import Stencil.Project.Clean
import Stencil.Settings.Layers

/-! # Running commands

A command works on a store and yields what is written to the output and to the
error output, with an exit code.

* `Surroundings` — what a command finds around it;
* `Report` — what it leaves behind;
* `loadProject` — the project with its settings;
* `Invocation.run` — the whole command.
-/

namespace Stencil

open Stencil.Program (Format)
open Stencil.Text (decimal joinWith splitOn)

/-- What a command finds around it. -/
structure Surroundings where
  /-- The path of the current directory, from the top. -/
  directory : List Char
  /-- The path of the user's own settings. -/
  userSettings : Option (List Char) := none
  /-- What can be read from the input. -/
  input : Except StoreError (List Char) := .ok []
  now : Time
  /-- The code that hands over the text of a command line. -/
  caller : Caller

/-- How a command ends. -/
inductive Ending where
  /-- It did what was asked for, with a message that can be kept quiet. -/
  | success (message : Option (List Char))
  /-- It did what was asked for and found fault. -/
  | fault (message : List Char)
  /-- It could not be done; each cause is behind the one before it. -/
  | error (causes : List (List Char))
  deriving DecidableEq, Repr

/-- What a command leaves behind, before it ends. -/
structure Progress where
  store : Store
  events : List Event := []
  output : List Char := []
  ending : Ending

/-- What a command leaves behind. -/
structure Report where
  store : Store
  events : List Event
  output : List Char
  errorOutput : List Char
  exitCode : Nat

namespace Surroundings

/-- The location of the current directory. -/
def here (around : Surroundings) : Location := (splitOn '/' around.directory).filter (!·.isEmpty)

end Surroundings

/-! ## The project -/

/-- The text of a settings document.  The name may have its ending twice. -/
def documentText? (store : Store) (here : Location) (path : List Char) : Option (List Char) :=
  match [path, path ++ ".toml".toList].find? (store.holdsFile here ·) with
  | some path => (store.readText here path).toOption
  | none => none

/-- The documents that settings of a project are read from; later ones win. -/
def settingsDocuments (around : Surroundings) (root : List Char) : List (List Char) :=
  around.userSettings.toList ++
    [joinPath root ".mythtpl.toml".toList, joinPath root "mythtpl.toml".toList]

/-- The project of an invocation with its settings. -/
def loadProject (around : Surroundings) (store : Store) (invocation : Invocation) :
    List Event × Except (List (List Char)) Project :=
  let root := invocation.project.getD around.directory
  let candidates : List Event := around.userSettings.toList.map fun path =>
    ⟨.debug, .settings, "user config candidate: ".toList ++ path⟩
  let texts := (settingsDocuments around root).filterMap (documentText? store around.here)
  match Settings.ofTexts? texts with
  | none =>
    (candidates,
      .error ["Failed to load settings".toList, "Configuration build/deserialize error".toList])
  | some settings =>
    let loaded := "loaded settings for ".toList ++ root ++ ": ".toList ++ settings.toJson.compact
    (candidates ++ [⟨.debug, .commands, loaded⟩], .ok { root, settings })

/-! ## Commands -/

/-- The causes of an error. -/
def ProjectError.causes (error : ProjectError) : List (List Char) :=
  error.message :: error.cause?.toList

/-- Ends a command with the path of an artifact. -/
def Outcome.endWithPath (outcome : Outcome (List Char)) : Progress :=
  match outcome.result with
  | .ok path => { store := outcome.store, events := outcome.events, ending := .success (some path) }
  | .error error =>
    { store := outcome.store, events := outcome.events, ending := .error error.causes }

/-- A number with a noun in the right form. -/
def counted (count : Nat) (noun : String) : List Char :=
  decimal count ++ ' ' :: noun.toList ++ if count = 1 then [] else ['s']

/-- Compiles a text and writes the artifact or its path. -/
def runString (around : Surroundings) (store : Store) (project : Project) (format : Format)
    (print : Bool) (source : List Char) : Progress :=
  let outcome := project.compileString store around.here around.now format around.caller source
  match print, outcome.result with
  | true, .ok path =>
    match outcome.store.readText around.here path with
    | .ok contents =>
      { store := outcome.store, events := outcome.events, output := contents
        ending := .success none }
    | .error error =>
      { store := outcome.store, events := outcome.events
        ending := .error ["Failed to read artifact ".toList ++ path, error.message] }
  | _, _ => outcome.endWithPath

/-- Checks files one after another, up to the first that cannot be read.  `faults`
    counts those with errors. -/
def runCheck (around : Surroundings) (store : Store) (project : Project) :
    (faults : Nat) → List (List Char) → Progress
  | 0, [] => { store, ending := .success none }
  | faults, [] =>
    let found := "Found errors in ".toList ++ counted faults "file" ++ ['.']
    { store, ending := .fault found }
  | faults, path :: paths =>
    match store.readText around.here path with
    | .error error =>
      { store, ending := .error ["Failed to read ".toList ++ path, error.message] }
    | .ok source =>
      let (events, report) := Command.checkSource project.compiler path source
      let rest := runCheck around store project (faults + report.toList.length) paths
      { rest with
        events := events ++ rest.events
        output := (report.map (· ++ "\n\n".toList)).getD [] ++ rest.output }

/-- The command with the text from the input, if it needs one. -/
def Command.withInput (command : Command) (around : Surroundings) :
    Except (List (List Char)) Command :=
  match command with
  | .string none format print =>
    match around.input with
    | .ok text => .ok (.string (some text) format print)
    | .error error => .error ["Failed to read stdin".toList, error.message]
  | command => .ok command

/-- Runs a command in its project. -/
def runInProject (around : Surroundings) (store : Store) (project : Project) : Command → Progress
  | .compile template force format =>
    (project.compileTemplate store around.here around.now format force template).endWithPath
  | .string text format print => runString around store project format print (text.getD [])
  | .check paths => runCheck around store project 0 paths
  | .clean expire =>
    let outcome := project.clean store around.here around.now expire
    match outcome.result with
    | .ok count =>
      let removed := "Removed ".toList ++ counted count "artifact" ++ ['.']
      { store := outcome.store, events := outcome.events, ending := .success (some removed) }
    | .error error =>
      { store := outcome.store, events := outcome.events, ending := .error error.causes }

/-- Closes a report. -/
def Progress.report (progress : Progress) (quiet : Bool) : Report :=
  let (output, errorOutput, exitCode) := match progress.ending with
    | .success (some message) =>
      (if quiet then [] else message ++ ['\n'], ([] : List Char), 0)
    | .success none => ([], [], 0)
    | .fault message => ([], message ++ ['\n'], 1)
    | .error causes =>
      ([], "error: ".toList ++ List.intercalate ": ".toList causes ++ ['\n'], 1)
  { store := progress.store
    events := progress.events
    output := progress.output ++ output
    errorOutput
    exitCode }

/-- Runs a command: reads the input, loads the project and does the work. -/
def Invocation.run (invocation : Invocation) (around : Surroundings) (store : Store) : Report :=
  let progress : Progress :=
    match invocation.command.withInput around with
    | .error causes => { store, ending := .error causes }
    | .ok command =>
      match loadProject around store invocation with
      | (events, .error causes) => { store, events, ending := .error causes }
      | (events, .ok project) =>
        let progress := runInProject around store project command
        { progress with events := events ++ progress.events }
  progress.report invocation.quiet

end Stencil
