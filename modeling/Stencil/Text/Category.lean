import Stencil.Text.Letter
import Stencil.Text.Mark
import Stencil.Text.Symbol

/-! # General categories

Every character belongs to one general category.  The names of categories, and of
the larger classes made of them, may be written long or short.

* `Category.contains` — the characters of a category;
* `Category.named?` — the categories that make up a named class.
-/

namespace Stencil.Text

/-- A general category. -/
inductive Category where
  | uppercaseLetter | lowercaseLetter | titlecaseLetter | modifierLetter | otherLetter
  | nonspacingMark | spacingMark | enclosingMark
  | decimalNumber | letterNumber | otherNumber
  | connector | dash | openBracket | closeBracket | initialQuote | finalQuote | otherPunctuation
  | mathSymbol | currencySymbol | modifierSymbol | otherSymbol
  | space | lineSeparator | paragraphSeparator
  | control | format | privateUse | unassigned
  deriving DecidableEq, Repr

namespace Category

/-- Capital, small and titlecase letters. -/
def casedLetters : List Category := [.uppercaseLetter, .lowercaseLetter, .titlecaseLetter]

/-- All letters. -/
def letters : List Category := casedLetters ++ [.modifierLetter, .otherLetter]

/-- All marks. -/
def marks : List Category := [.nonspacingMark, .spacingMark, .enclosingMark]

/-- All numbers. -/
def numbers : List Category := [.decimalNumber, .letterNumber, .otherNumber]

/-- All punctuation. -/
def punctuation : List Category :=
  [.connector, .dash, .openBracket, .closeBracket, .initialQuote, .finalQuote, .otherPunctuation]

/-- All symbols. -/
def symbols : List Category := [.mathSymbol, .currencySymbol, .modifierSymbol, .otherSymbol]

/-- All separators. -/
def separators : List Category := [.space, .lineSeparator, .paragraphSeparator]

/-- All categories of characters that are in use. -/
def assigned : List Category :=
  letters ++ marks ++ numbers ++ punctuation ++ symbols ++ separators ++
    [.control, .format, .privateUse]

/-- All other categories: what is neither written nor a separator. -/
def others : List Category := [.control, .format, .privateUse, .unassigned]

/-- Whether a character that is in use belongs to a category. -/
def lists : Category → Char → Bool
  | .uppercaseLetter, c => isUppercaseLetter c
  | .lowercaseLetter, c => isLowercaseLetter c
  | .titlecaseLetter, c => isTitlecaseLetter c
  | .modifierLetter, c => isModifierLetter c
  | .otherLetter, c => isOtherLetter c
  | .nonspacingMark, c => nonspacingMarkRanges.contains c.toNat
  | .spacingMark, c => spacingMarkRanges.contains c.toNat
  | .enclosingMark, c => enclosingMarkRanges.contains c.toNat
  | .decimalNumber, c => isDigit c
  | .letterNumber, c => letterNumberRanges.contains c.toNat
  | .otherNumber, c => otherNumberRanges.contains c.toNat
  | .connector, c => connectorRanges.contains c.toNat
  | .dash, c => dashRanges.contains c.toNat
  | .openBracket, c => openRanges.contains c.toNat
  | .closeBracket, c => closeRanges.contains c.toNat
  | .initialQuote, c => initialQuoteRanges.contains c.toNat
  | .finalQuote, c => finalQuoteRanges.contains c.toNat
  | .otherPunctuation, c => otherPunctuationRanges.contains c.toNat
  | .mathSymbol, c => mathSymbolRanges.contains c.toNat
  | .currencySymbol, c => currencySymbolRanges.contains c.toNat
  | .modifierSymbol, c => modifierSymbolRanges.contains c.toNat
  | .otherSymbol, c => otherSymbolRanges.contains c.toNat
  | .space, c => spaceRanges.contains c.toNat
  | .lineSeparator, c => c = '\u2028'
  | .paragraphSeparator, c => c = '\u2029'
  | .control, c => c.toNat < 0x20 || (0x7F ≤ c.toNat && c.toNat ≤ 0x9F)
  | .format, c => formatRanges.contains c.toNat
  | .privateUse, c => privateRanges.contains c.toNat
  | .unassigned, _ => false

/-- The characters of a category.  A character in no list is unassigned. -/
def contains (category : Category) (c : Char) : Bool :=
  if category = .unassigned then !assigned.any (·.lists c) else category.lists c

/-- The categories of a class, by its name in small letters. -/
def named? (name : String) : Option (List Category) :=
  [("uppercaseletter", [uppercaseLetter]), ("lu", [uppercaseLetter]),
   ("lowercaseletter", [lowercaseLetter]), ("ll", [lowercaseLetter]),
   ("titlecaseletter", [titlecaseLetter]), ("lt", [titlecaseLetter]),
   ("casedletter", casedLetters), ("lc", casedLetters),
   ("modifierletter", [modifierLetter]), ("lm", [modifierLetter]),
   ("otherletter", [otherLetter]), ("lo", [otherLetter]),
   ("letter", letters), ("l", letters),
   ("nonspacingmark", [nonspacingMark]), ("mn", [nonspacingMark]),
   ("spacingmark", [spacingMark]), ("mc", [spacingMark]),
   ("enclosingmark", [enclosingMark]), ("me", [enclosingMark]),
   ("mark", marks), ("combiningmark", marks), ("m", marks),
   ("decimalnumber", [decimalNumber]), ("digit", [decimalNumber]), ("nd", [decimalNumber]),
   ("letternumber", [letterNumber]), ("nl", [letterNumber]),
   ("othernumber", [otherNumber]), ("no", [otherNumber]),
   ("number", numbers), ("n", numbers),
   ("connectorpunctuation", [connector]), ("pc", [connector]),
   ("dashpunctuation", [dash]), ("pd", [dash]),
   ("openpunctuation", [openBracket]), ("ps", [openBracket]),
   ("closepunctuation", [closeBracket]), ("pe", [closeBracket]),
   ("initialpunctuation", [initialQuote]), ("pi", [initialQuote]),
   ("finalpunctuation", [finalQuote]), ("pf", [finalQuote]),
   ("otherpunctuation", [otherPunctuation]), ("po", [otherPunctuation]),
   ("punctuation", punctuation), ("punct", punctuation), ("p", punctuation),
   ("mathsymbol", [mathSymbol]), ("sm", [mathSymbol]),
   ("currencysymbol", [currencySymbol]), ("sc", [currencySymbol]),
   ("modifiersymbol", [modifierSymbol]), ("sk", [modifierSymbol]),
   ("othersymbol", [otherSymbol]), ("so", [otherSymbol]),
   ("symbol", symbols), ("s", symbols),
   ("spaceseparator", [space]), ("zs", [space]),
   ("lineseparator", [lineSeparator]), ("zl", [lineSeparator]),
   ("paragraphseparator", [paragraphSeparator]), ("zp", [paragraphSeparator]),
   ("separator", separators), ("z", separators),
   ("control", [control]), ("cntrl", [control]), ("cc", [control]),
   ("format", [format]), ("cf", [format]),
   ("privateuse", [privateUse]), ("co", [privateUse]),
   ("unassigned", [unassigned]), ("cn", [unassigned]),
   ("other", others), ("c", others),
   ("assigned", assigned), ("any", unassigned :: assigned)].lookup name

end Category

end Stencil.Text
