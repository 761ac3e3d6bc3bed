import Stencil.Text.Blank
import Stencil.Text.Category
import Stencil.Text.Script

/-! # Properties of characters

The properties that a pattern can ask for by name: general categories, scripts
and a few properties that hold or do not hold of a character.  In a name, case,
blanks, hyphens, underscores and a leading `is` do not count.

* `Property.holds` — whether a character has a property;
* `Property.named?` / `Property.valued?` — the property with a name, or with a
  name and a value.
-/

namespace Stencil.Text

/-- A property of characters. -/
inductive Property where
  /-- One of several general categories. -/
  | category (categories : List Category)
  | script (system : Script)
  | alphabetic
  | lowercase
  | uppercase
  | blank
  | ascii
  /-- A hexadecimal digit, also of full width where `wide` is set. -/
  | hexDigit (wide : Bool)
  | emoji
  deriving DecidableEq, Repr

namespace Property

/-- Characters that are set as small letters without being letters of that kind. -/
def lowercaseSymbolRanges : Ranges :=
  [(0xAA, 0xAA), (0xBA, 0xBA), (0x2B0, 0x2B8), (0x2C0, 0x2C1), (0x2E0, 0x2E4), (0x345, 0x345),
   (0x37A, 0x37A), (0x10FC, 0x10FC), (0x1D2C, 0x1D6A), (0x1D78, 0x1D78), (0x1D9B, 0x1DBF),
   (0x2071, 0x2071), (0x207F, 0x207F), (0x2090, 0x209C), (0x2170, 0x217F), (0x24D0, 0x24E9),
   (0x2C7C, 0x2C7D), (0xA69C, 0xA69D), (0xA770, 0xA770), (0xA7F2, 0xA7F4), (0xA7F8, 0xA7F9),
   (0xAB5C, 0xAB5F), (0xAB69, 0xAB69), (0x10780, 0x10780), (0x10783, 0x10785), (0x10787, 0x107B0),
   (0x107B2, 0x107BA), (0x1E030, 0x1E06D)]

/-- Characters that are set as capitals without being letters of that kind. -/
def uppercaseSymbolRanges : Ranges :=
  [(0x2160, 0x216F), (0x24B6, 0x24CF), (0x1F130, 0x1F149), (0x1F150, 0x1F169), (0x1F170, 0x1F189)]

/-- Whether a character has a property. -/
def holds : Property → Char → Bool
  | .category categories, c => categories.any (·.contains c)
  | .script system, c => system.contains c
  | .alphabetic, c =>
    (Category.letterNumber :: Category.letters).any (·.lists c) ||
      alphabeticMarkRanges.contains c.toNat
  | .lowercase, c => isLowercaseLetter c || lowercaseSymbolRanges.contains c.toNat
  | .uppercase, c => isUppercaseLetter c || uppercaseSymbolRanges.contains c.toNat
  | .blank, c => isBlank c
  | .ascii, c => c.toNat < 128
  | .hexDigit wide, c =>
    let inAscii (code : Nat) : Bool :=
      (0x30 ≤ code && code ≤ 0x39) || (0x41 ≤ code && code ≤ 0x46) || (0x61 ≤ code && code ≤ 0x66)
    -- the forms of full width repeat the ASCII ones at a fixed distance
    inAscii c.toNat || (wide && 0xFEE0 ≤ c.toNat && inAscii (c.toNat - 0xFEE0))
  | .emoji, c => emojiRanges.contains c.toNat

/-- The form of a name in which names are compared. -/
def plainName (name : List Char) : List Char :=
  let shorten (letters : List Char) : List Char :=
    (letters.filter fun c => c.toNat < 128 && !" _-".toList.contains c).map Char.toLower
  match name with
  | first :: second :: rest =>
    if first.toLower = 'i' && second.toLower = 's' then
      match shorten rest with
      | ['c'] => "isc".toList
      | rest => rest
    else shorten name
  | _ => shorten name

/-- The property that holds or does not hold, by its name. -/
def binary? (name : String) : Option Property :=
  [("alphabetic", .alphabetic), ("alpha", .alphabetic),
   ("lowercase", .lowercase), ("lower", .lowercase),
   ("uppercase", .uppercase), ("upper", .uppercase),
   ("whitespace", .blank), ("wspace", .blank), ("space", .blank),
   ("asciihexdigit", .hexDigit false), ("ahex", .hexDigit false),
   ("hexdigit", .hexDigit true), ("hex", .hexDigit true),
   ("emoji", .emoji)].lookup name

/-- The general category, or class of categories, with a name. -/
def categoryNamed? (name : String) : Option Property :=
  if name = "ascii" then some .ascii else (Category.named? name).map .category

/-- The property with a name. -/
def named? (name : List Char) : Option Property :=
  let name := String.ofList (plainName name)
  binary? name <|> categoryNamed? name <|> (Script.named? name).map .script

/-- The property that a name and a value give together. -/
def valued? (name value : List Char) : Option Property :=
  let value := String.ofList (plainName value)
  match String.ofList (plainName name) with
  | "gc" | "generalcategory" => categoryNamed? value
  | "sc" | "script" => (Script.named? value).map .script
  | _ => none

end Property

end Stencil.Text
