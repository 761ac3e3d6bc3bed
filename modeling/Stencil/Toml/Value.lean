/-! # TOML values

A document is a table: entries in the order in which they were written.  Tables
remember how they came about, because that decides what may still be added to
them.

* `Value` — the values of a document;
* `changeAt?` — a change to the table at the end of a path of keys;
* `assign?` — an entry under a key, which must be new;
* `openTable?` / `openElement?` — the two kinds of headers.
-/

namespace Stencil.Toml

/-- How a table came about. -/
inductive TableForm where
  /-- Written out between braces; nothing can be added. -/
  | inline
  /-- Opened by its own header. -/
  | opened
  /-- Passed through by the header of a table inside it. -/
  | implied
  /-- Passed through by the dotted key of an entry inside it. -/
  | dotted
  deriving DecidableEq, Repr

/-- A value of a document. -/
inductive Value where
  | string (text : List Char)
  | integer (value : Int)
  | float (value : Float)
  | boolean (value : Bool)
  /-- A date, a time or both, in its usual notation. -/
  | moment (text : List Char)
  | array (items : List Value)
  | table (form : TableForm) (entries : List (List Char × Value))
  /-- The tables under headers in double brackets. -/
  | tables (elements : List (List (List Char × Value)))
  deriving Inhabited

/-- The entries of a table. -/
abbrev Entries := List (List Char × Value)

/-- The entries with another value for a key. -/
def Entries.replace (key : List Char) (value : Value) (entries : Entries) : Entries :=
  entries.map fun entry => if entry.1 = key then (key, value) else entry

/-- Changes the table at the end of a path.  Tables that are missing are made in
    the form `fresh`; dotted keys may not enter a table that has a header. -/
def changeAt? (fresh : TableForm) (change : TableForm → Entries → Option Entries) :
    List (List Char) → TableForm → Entries → Option Entries
  | [], form, entries => change form entries
  | key :: path, _, entries =>
    match entries.lookup key with
    | none => do
      let inner ← changeAt? fresh change path fresh []
      return entries ++ [(key, .table fresh inner)]
    | some (.table form inner) => do
      guard (form ≠ .inline && !(fresh = .dotted && form = .opened))
      let inner ← changeAt? fresh change path form inner
      return entries.replace key (.table form inner)
    | some (.tables elements) => do
      let last ← elements.getLast?
      let last ← changeAt? fresh change path .opened last
      return entries.replace key (.tables (elements.dropLast ++ [last]))
    | some _ => none

/-- Adds an entry under a dotted key.  The table that gets the entry must have
    been made by dotted keys, too. -/
def assign? (path : List (List Char)) (key : List Char) (value : Value) (form : TableForm)
    (entries : Entries) : Option Entries :=
  changeAt? .dotted
    (fun form entries => do
      guard (path.isEmpty || form = .dotted)
      guard (entries.lookup key).isNone
      return entries ++ [(key, value)])
    path form entries

/-- Opens a table.  It may have been passed through by headers before. -/
def openTable? (path : List (List Char)) (key : List Char) (document : Entries) :
    Option Entries :=
  changeAt? .implied
    (fun _ entries =>
      match entries.lookup key with
      | none => some (entries ++ [(key, .table .opened [])])
      | some (.table .implied inner) => some (entries.replace key (.table .opened inner))
      | some _ => none)
    path .opened document

/-- Opens the next element of an array of tables. -/
def openElement? (path : List (List Char)) (key : List Char) (document : Entries) :
    Option Entries :=
  changeAt? .implied
    (fun _ entries =>
      match entries.lookup key with
      | none => some (entries ++ [(key, .tables [[]])])
      | some (.tables elements) => some (entries.replace key (.tables (elements ++ [[]])))
      | some _ => none)
    path .opened document

end Stencil.Toml
