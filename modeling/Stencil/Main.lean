import Stencil.Command.LogFilter
import Stencil.Command.Run

/-! # The command line

The program looks at the nodes on the paths that a command is about, runs the
command on them as a store and brings back what has changed.  What it sees of a
file is its contents.  So it cannot tell when an artifact is fresh and compiles
it anew, and it does not clean a cache that is there.

* `Terminal.survey` — the store of the nodes on some paths;
* `Terminal.bringBack` — the changes of a store, made;
* `main` — a whole run.
-/

namespace Stencil.Terminal

open Stencil.Text (joinWith splitOn)

/-- How the program is used. -/
def usage : String :=
  String.intercalate "\n"
    ["Usage: mythtpl [OPTIONS] <COMMAND>",
     "",
     "Commands:",
     "  compile [--force] [--emit php|json] <NAME>  Compile a named template into the cache",
     "  string [--emit php|json] [--print] [TEXT]   Compile a text, or the input",
     "  check <FILE>...                             Report errors in template files",
     "  clean [--expire SECONDS]                    Remove expired artifacts from the cache",
     "",
     "Options:",
     "  -q, --quiet      Do not print any output",
     "  -v, --verbose    Use verbose output",
     "  --project <DIR>  The directory that holds mythtpl.toml",
     "  -h, --help       Print help",
     "  -V, --version    Print version"]

/-- The version of the program. -/
def version : String := "mythtpl 0.1.0"

/-! ## Reading -/

/-- A location as a path from the top. -/
def pathOf (location : Location) : String := String.ofList ('/' :: joinWith '/' location)

/-- The node at a location.  A node that can be read is a file. -/
def nodeAt? (location : Location) : IO (Option Node) := do
  try
    return some (.file (← IO.FS.readBinFile (pathOf location)) 0)
  catch error =>
    match error with
    | .inappropriateType _ 21 _ => return some .directory
    | _ => return none

/-- Adds the nodes on the parts of a path to a store. -/
def look (store : Store) (place : Location) : List (List Char) → IO Store
  | [] => return store
  | part :: parts =>
    if part = [] || part = ['.'] then look store place parts
    else if part = ['.', '.'] then look store place.dropLast parts
    else do
      let inner := place ++ [part]
      match ← nodeAt? inner with
      | none => return store
      | some node => look (store.put inner node) inner parts

/-- Adds the nodes on paths to a store. -/
def survey (here : Location) (paths : List (List Char)) (store : Store) : IO Store :=
  paths.foldlM
    (fun store path => look store (if path.head? = some '/' then [] else here) (splitOn '/' path))
    store

/-- The text of the input. -/
def readInput : IO (Except StoreError (List Char)) := do
  match Text.decode? (← (← IO.getStdin).readBinToEnd) with
  | some text => return .ok text
  | none => return .error .invalidText

/-- The path of the user's own settings. -/
def userSettings? : IO (Option (List Char)) := do
  let file := "mythtpl/mythtpl.toml".toList
  match ← IO.getEnv "XDG_CONFIG_HOME", ← IO.getEnv "HOME" with
  | some folder, home =>
    if folder.toList.head? = some '/' then return some (joinPath folder.toList file)
    return home.map fun home => joinPath (joinPath home.toList ".config".toList) file
  | none, home => return home.map fun home => joinPath (joinPath home.toList ".config".toList) file

/-! ## Writing -/

/-- The nodes of a store that another store lacks, or that were written since,
    outermost first. -/
def changes (before after : Store) : List (Location × Node) :=
  let changed := after.nodes.filter fun (location, node) =>
    match node with
    | .directory => !before.isDirectory location
    | .file _ written => before.written? location ≠ some written
  changed.mergeSort fun one other => one.1.length ≤ other.1.length

/-- Changes the nodes of a store into those of another one. -/
def bringBack (before after : Store) : IO Unit := do
  for (location, _) in before.files do
    if (after.node? location).isNone then IO.FS.removeFile (pathOf location)
  for (location, node) in changes before after do
    match node with
    | .directory => IO.FS.createDir (pathOf location)
    | .file contents _ => IO.FS.writeBinFile (pathOf location) contents

/-! ## Commands -/

/-- The paths that a command looks at or writes to. -/
def pathsOf (project : Project) : Command → List (List Char)
  | .compile template _ format =>
    [project.templatePath template, project.artifactPath format template]
  | .string text format _ => [project.stringPath format (text.getD [])]
  | .check paths => paths
  | .clean _ => [project.cacheDirectory]

/-- The invocation with its command as the program runs it: with the text from the
    input, and without asking whether an artifact is fresh. -/
def prepare (around : Surroundings) (invocation : Invocation) : Invocation :=
  match invocation.command with
  | .compile template _ format => { invocation with command := .compile template true format }
  | command =>
    match command.withInput around with
    | .ok command => { invocation with command }
    | .error _ => invocation

/-- How an event is shown. -/
def eventLine (verbose : Nat) (event : Event) : String :=
  let level := event.level.name
  let component := if 1 < verbose then event.component.name ++ ": ".toList else []
  let padding := List.replicate (5 - level.length) ' '
  String.ofList (padding ++ level ++ ' ' :: component ++ event.message)

/-- Shows a report and brings back what has changed. -/
def finish (invocation : Invocation) (before : Store) (report : Report) : IO UInt32 := do
  let given := (← IO.getEnv "RUST_LOG").bind fun text => LogFilter.ofText? text.toList
  let filter := given.getD (.ofVerbosity invocation.quiet invocation.verbose)
  for event in report.events.filter filter.shows do
    IO.eprintln (eventLine invocation.verbose event)
  bringBack before report.store
  IO.print (String.ofList report.output)
  IO.eprint (String.ofList report.errorOutput)
  return UInt32.ofNat report.exitCode

/-- Runs an invocation. -/
def run (invocation : Invocation) : IO UInt32 := do
  let input ← match invocation.command with
    | .string none _ _ => readInput
    | _ => pure (.ok [])
  let around : Surroundings :=
    { directory := (toString (← IO.currentDir)).toList
      userSettings := ← userSettings?
      input
      now := 1
      caller := ⟨"the command line".toList, 1, 1⟩ }
  let invocation := prepare around invocation
  let documents := settingsDocuments around (invocation.project.getD around.directory)
  let store ← survey around.here
    (around.directory :: documents ++ documents.map (· ++ ".toml".toList)) {}
  match (loadProject around store invocation).2 with
  | .error _ => finish invocation store (invocation.run around store)
  | .ok project =>
    let store ← survey around.here (pathsOf project invocation.command) store
    match invocation.command, store.holdsDirectory around.here project.cacheDirectory with
    | .clean _, true =>
      IO.eprintln "error: the files in the cache cannot be listed"
      return 1
    | _, _ => finish invocation store (invocation.run around store)

end Stencil.Terminal

/-- Runs the command that the arguments ask for. -/
def main (arguments : List String) : IO UInt32 := do
  match Stencil.Invocation.ofArguments (arguments.map String.toList) with
  | .error refusal =>
    match refusal with
    | .help => IO.println Stencil.Terminal.usage
    | .version => IO.println Stencil.Terminal.version
    | _ => IO.eprintln Stencil.Terminal.usage
    return UInt32.ofNat refusal.exitCode
  | .ok invocation =>
    try
      Stencil.Terminal.run invocation
    catch error =>
      IO.eprintln ("error: " ++ toString error)
      return 1
