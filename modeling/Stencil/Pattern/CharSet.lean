import Stencil.Text.Blank
import Stencil.Text.CaseFold
import Stencil.Text.Property
import Stencil.Text.WordCharacter

/-! # Sets of characters

The character classes of a pattern, kept as expressions over ranges and the
standard classes.  `CharSet.contains` decides membership.
-/

namespace Stencil.Pattern

open Stencil.Text

/-- A set of characters. -/
inductive CharSet where
  | empty
  /-- The characters from `first` to `last`. -/
  | range (first last : Char)
  /-- Word characters of any script. -/
  | word
  /-- Decimal digits of any script. -/
  | digit
  /-- Blank characters of any script. -/
  | blank
  /-- The characters with a property. -/
  | having (property : Property)
  | union (left right : CharSet)
  | inter (left right : CharSet)
  | complement (inner : CharSet)
  /-- The characters that equal a member up to letter case. -/
  | anyCase (inner : CharSet)
  deriving DecidableEq, Repr, Inhabited

namespace CharSet

/-- Whether a character is in the set. -/
def contains : CharSet → Char → Bool
  | .empty, _ => false
  | .range first last, c => first ≤ c && c ≤ last
  | .word, c => isWord c
  | .digit, c => isDigit c
  | .blank, c => isBlank c
  | .having property, c => property.holds c
  | .union left right, c => left.contains c || right.contains c
  | .inter left right, c => left.contains c && right.contains c
  | .complement inner, c => !inner.contains c
  | .anyCase inner, c => inner.contains c || (orbit c).any inner.contains

/-- The set of one character. -/
def single (c : Char) : CharSet := .range c c

/-- The union of several ranges. -/
def ofRanges (ranges : List (Char × Char)) : CharSet :=
  ranges.foldr (fun (first, last) others => .union (.range first last) others) .empty

/-- The characters of the first set that are not in the second. -/
def without (left right : CharSet) : CharSet := .inter left (.complement right)

/-- The characters in exactly one of two sets. -/
def exclusive (left right : CharSet) : CharSet :=
  .union (left.without right) (right.without left)

/-- ASCII word characters. -/
def asciiWord : CharSet := ofRanges [('a', 'z'), ('A', 'Z'), ('0', '9'), ('_', '_')]

/-- ASCII digits. -/
def asciiDigit : CharSet := .range '0' '9'

/-- ASCII blanks. -/
def asciiBlank : CharSet := ofRanges [('\t', '\r'), (' ', ' ')]

/-- The named ASCII classes. -/
def named? (name : List Char) : Option CharSet :=
  [("alnum", ofRanges [('0', '9'), ('A', 'Z'), ('a', 'z')]),
   ("alpha", ofRanges [('A', 'Z'), ('a', 'z')]),
   ("ascii", .range '\x00' '\x7f'),
   ("blank", ofRanges [('\t', '\t'), (' ', ' ')]),
   ("cntrl", ofRanges [('\x00', '\x1f'), ('\x7f', '\x7f')]),
   ("digit", asciiDigit),
   ("graph", .range '!' '~'),
   ("lower", .range 'a' 'z'),
   ("print", .range ' ' '~'),
   ("punct", ofRanges [('!', '/'), (':', '@'), ('[', '\x60'), ('\x7b', '~')]),
   ("space", asciiBlank),
   ("upper", .range 'A' 'Z'),
   ("word", asciiWord),
   ("xdigit", ofRanges [('0', '9'), ('A', 'F'), ('a', 'f')])].lookup (String.ofList name)

end CharSet

end Stencil.Pattern
