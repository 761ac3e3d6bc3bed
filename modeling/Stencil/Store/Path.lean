import Stencil.Store.Basic
import Stencil.Text.Search
import Stencil.Text.Utf8

/-! # Paths

A path is text that leads to a node of a store, from the top or from a
directory.  Paths are joined as text and kept as they are written; only where
they lead is worked out with a store at hand.

* `joinPath` — a path inside another one;
* `StoreError` — why a node cannot be reached or changed;
* `Store.resolve` — where a path leads.
-/

namespace Stencil

open Stencil.Text (byteLength decimal splitOn)

/-- A path inside another one.  A path from the top stands for itself. -/
def joinPath (path inner : List Char) : List Char :=
  if inner.head? = some '/' then inner
  else if path = [] || path.getLast? = some '/' then path ++ inner
  else path ++ '/' :: inner

/-- Why a node of a store cannot be reached or changed. -/
inductive StoreError where
  | notFound
  | exists
  | notDirectory
  | isDirectory
  | nameTooLong
  | invalidText
  deriving DecidableEq, Repr

/-- The message of an error, as the operating system words it. -/
def StoreError.message (error : StoreError) : List Char :=
  let numbered (text : String) (number : Nat) : List Char :=
    text.toList ++ " (os error ".toList ++ decimal number ++ [')']
  match error with
  | .notFound => numbered "No such file or directory" 2
  | .exists => numbered "File exists" 17
  | .notDirectory => numbered "Not a directory" 20
  | .isDirectory => numbered "Is a directory" 21
  | .nameTooLong => numbered "File name too long" 36
  | .invalidText => "stream did not contain valid UTF-8".toList

/-- The longest name in bytes. -/
def nameLimit : Nat := 255

namespace Store

/-- Follows the parts of a path.  Every part but a last name leads through a
    directory; a part that is empty or a dot stays there, two dots lead out of it. -/
def follow (store : Store) (location : Location) :
    List (List Char) → Except StoreError Location
  | [] => .ok location
  | part :: parts =>
    match store.node? location with
    | none => .error .notFound
    | some (.file _ _) => .error .notDirectory
    | some .directory =>
      if part = [] || part = ['.'] then store.follow location parts
      else if part = ['.', '.'] then store.follow location.dropLast parts
      else if nameLimit < byteLength part then .error .nameTooLong
      else store.follow (location ++ [part]) parts

/-- Where a path leads from a directory.  There need not be a node. -/
def resolve (store : Store) (directory : Location) (path : List Char) :
    Except StoreError Location :=
  if path = [] then .error .notFound
  else store.follow (if path.head? = some '/' then [] else directory) (splitOn '/' path)

/-! ## Reading -/

/-- Whether a path leads to a file. -/
def holdsFile (store : Store) (directory : Location) (path : List Char) : Bool :=
  match store.resolve directory path with
  | .ok location => store.isFile location
  | .error _ => false

/-- Whether a path leads to a directory. -/
def holdsDirectory (store : Store) (directory : Location) (path : List Char) : Bool :=
  match store.resolve directory path with
  | .ok location => store.isDirectory location
  | .error _ => false

/-- The text of the file that a path leads to. -/
def readText (store : Store) (directory : Location) (path : List Char) :
    Except StoreError (List Char) := do
  let location ← store.resolve directory path
  match store.node? location with
  | none => .error .notFound
  | some .directory => .error .isDirectory
  | some (.file contents _) =>
    match Text.decode? contents with
    | some text => .ok text
    | none => .error .invalidText

/-- When the file that a path leads to was written. -/
def writtenAt? (store : Store) (directory : Location) (path : List Char) : Option Time :=
  match store.resolve directory path with
  | .ok location => store.written? location
  | .error _ => none

/-! ## Writing -/

/-- Makes the directories that the parts of a path lead through, as far as they
    are missing. -/
def makeParts (store : Store) (location : Location) :
    List (List Char) → Except StoreError (Store × Location)
  | [] => .ok (store, location)
  | part :: parts =>
    if part = [] || part = ['.'] then store.makeParts location parts
    else if part = ['.', '.'] then store.makeParts location.dropLast parts
    else if nameLimit < byteLength part then .error .nameTooLong
    else
      match store.node? (location ++ [part]) with
      | some .directory => store.makeParts (location ++ [part]) parts
      -- A file takes the name itself, or it is in the way of what follows.
      | some (.file _ _) => .error (if parts.all List.isEmpty then .exists else .notDirectory)
      | none => (store.put (location ++ [part]) .directory).makeParts (location ++ [part]) parts

/-- Makes a directory and those it lies in, and says where it is. -/
def makeDirectories (store : Store) (directory : Location) (path : List Char) :
    Except StoreError (Store × Location) :=
  store.makeParts (if path.head? = some '/' then [] else directory) (splitOn '/' path)

/-- Puts a file with a text at a location, in place of the file that may be there. -/
def writeText (store : Store) (location : Location) (text : List Char) (now : Time) :
    Except StoreError Store :=
  if nameLimit < byteLength (location.getLastD []) then .error .nameTooLong
  else if store.isDirectory location then .error .isDirectory
  else .ok (store.put location (.file (Text.encode text) now))

end Store

end Stencil
