import Stencil.Json.Basic
import Stencil.Text.Utf8

/-! # Writing JSON

Strings are written with the short escapes where there is one and `\u00xx` for
other control characters; all else stands as it is.  The pretty form puts every
item on a line of its own, indented by two spaces a level; the compact form has
no blanks.
-/

namespace Stencil.Json

open Stencil.Text (decimal)

/-- The hexadecimal digit of a number below sixteen. -/
def hexDigit (n : Nat) : Char := (Nat.digitChar n)

/-- A character inside a string literal. -/
def escapeChar (c : Char) : List Char :=
  if c = '"' then ['\\', '"']
  else if c = '\\' then ['\\', '\\']
  else if c = '\x08' then ['\\', 'b']
  else if c = '\x0c' then ['\\', 'f']
  else if c = '\n' then ['\\', 'n']
  else if c = '\r' then ['\\', 'r']
  else if c = '\t' then ['\\', 't']
  else if c.toNat < 32 then
    ['\\', 'u', '0', '0', hexDigit (c.toNat / 16), hexDigit (c.toNat % 16)]
  else [c]

/-- A string literal. -/
def quote (text : List Char) : List Char := '"' :: text.flatMap escapeChar ++ ['"']

/-- A whole number. -/
def integer : Int → List Char
  | .ofNat n => decimal n
  | .negSucc n => '-' :: decimal (n + 1)

/-- A new line at a depth. -/
def newline (depth : Nat) : List Char := '\n' :: List.replicate (2 * depth) ' '

mutual

/-- The pretty form of a value whose first line is already indented. -/
def prettyAt (depth : Nat) : Json → List Char
  | .null => "null".toList
  | .bool value => if value then "true".toList else "false".toList
  | .number value => integer value
  | .string text => quote text
  | .array [] => "[]".toList
  | .array (item :: items) =>
    '[' :: newline (depth + 1) ++ prettyAt (depth + 1) item ++ prettyItems (depth + 1) items ++
      newline depth ++ [']']
  | .object [] => ['{', '}']
  | .object ((name, value) :: members) =>
    '{' :: newline (depth + 1) ++ quote name ++ ": ".toList ++ prettyAt (depth + 1) value ++
      prettyMembers (depth + 1) members ++ newline depth ++ ['}']

/-- The items of an array after the first one. -/
def prettyItems (depth : Nat) : List Json → List Char
  | [] => []
  | item :: items => ',' :: newline depth ++ prettyAt depth item ++ prettyItems depth items

/-- The members of an object after the first one. -/
def prettyMembers (depth : Nat) : List (List Char × Json) → List Char
  | [] => []
  | (name, value) :: members =>
    ',' :: newline depth ++ quote name ++ ": ".toList ++ prettyAt depth value ++
      prettyMembers depth members

end

/-- The pretty form of a value. -/
def pretty (value : Json) : List Char := prettyAt 0 value

mutual

/-- The compact form of a value. -/
def compact : Json → List Char
  | .null => "null".toList
  | .bool value => if value then "true".toList else "false".toList
  | .number value => integer value
  | .string text => quote text
  | .array [] => "[]".toList
  | .array (item :: items) => '[' :: compact item ++ compactItems items ++ [']']
  | .object [] => ['{', '}']
  | .object ((name, value) :: members) =>
    '{' :: quote name ++ [':'] ++ compact value ++ compactMembers members ++ ['}']

/-- The items of an array after the first one. -/
def compactItems : List Json → List Char
  | [] => []
  | item :: items => ',' :: compact item ++ compactItems items

/-- The members of an object after the first one. -/
def compactMembers : List (List Char × Json) → List Char
  | [] => []
  | (name, value) :: members =>
    ',' :: quote name ++ [':'] ++ compact value ++ compactMembers members

end

end Stencil.Json
