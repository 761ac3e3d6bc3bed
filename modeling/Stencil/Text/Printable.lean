import Stencil.Text.Category
import Stencil.Text.Width

/-! # Printable characters

A text shown between double quotes: a character that can be seen on its own
stands for itself, any other is written with a backslash.

* `isPrintable` — whether a character can be seen on its own;
* `quoteVisibly` — a text between quotes.
-/

namespace Stencil.Text

/-- Whether a character can be seen on its own.  Separators other than the space
    cannot, nor can marks that combine with the character before them; letters
    and punctuation that take no column can. -/
def isPrintable (c : Char) : Bool :=
  c = ' ' ||
    (!(Category.separators ++ Category.others).any (·.contains c) &&
      (!zeroWidthRanges.contains c.toNat ||
        Category.otherLetter.contains c || Category.otherPunctuation.contains c))

/-- A character of a text between quotes. -/
def quotedChar (c : Char) : List Char :=
  if c = '"' || c = '\\' then ['\\', c]
  else if c = '\n' then ['\\', 'n']
  else if c = '\r' then ['\\', 'r']
  else if c = '\t' then ['\\', 't']
  else if c = '\x00' then ['\\', '0']
  else if isPrintable c then [c]
  else '\\' :: 'u' :: '{' :: (Nat.toDigits 16 c.toNat ++ ['}'])

/-- A text between quotes. -/
def quoteVisibly (text : List Char) : List Char := '"' :: text.flatMap quotedChar ++ ['"']

end Stencil.Text
