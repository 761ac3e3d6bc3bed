import Stencil.Tag.Custom
import Stencil.Text.Search

/-! # Literals in generated code

Strings and arrays as PHP literals.  In single quotes only the backslash and
the quote itself need a backslash in front.

* `quoteSingle` — a text as the inside of a single-quoted string;
* `stripSlashes` — removes one level of backslashes;
* `exportMatches` — the matches of a custom tag as an array literal.
-/

namespace Stencil.Php

open Stencil.Tag (CaptureGroup TagMatches)
open Stencil.Text (replaceAll decimal)

/-- The inside of a single-quoted string. -/
def quoteSingle (text : List Char) : List Char :=
  text.flatMap fun c => if c = '\\' || c = '\'' then ['\\', c] else [c]

/-- Removes the backslash of every escape; an escaped zero stands for the null
    character, and a backslash at the end is dropped. -/
def stripSlashes : List Char → List Char
  | '\\' :: c :: rest => (if c = '0' then '\x00' else c) :: stripSlashes rest
  | ['\\'] => []
  | c :: rest => c :: stripSlashes rest
  | [] => []

/-- The values of a group as array entries. -/
def exportValues (values : List (List Char)) : List Char :=
  "  array (\n".toList ++
  (values.zipIdx.flatMap fun (value, index) =>
    "    ".toList ++ decimal index ++ " => '".toList ++ quoteSingle value ++ "',\n".toList) ++
  "  ),\n".toList

/-- A capture group as array entries: under its name, if it has one, and under
    its number. -/
def exportGroup (group : CaptureGroup) (index : Nat) : List Char :=
  let values := exportValues group.values
  let named := match group.name with
    | some name => "  '".toList ++ quoteSingle name ++ "' => \n".toList ++ values
    | none => []
  named ++ "  ".toList ++ decimal index ++ " => \n".toList ++ values

/-- The matches of a custom tag as an array literal. -/
def exportMatches (tagMatches : TagMatches) : List Char :=
  "array (\n".toList ++
  (tagMatches.groups.zipIdx.flatMap fun (group, index) => exportGroup group index) ++ [')']

end Stencil.Php
