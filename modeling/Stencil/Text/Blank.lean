/-! # Blank characters and trimming

`isBlank` is the Unicode property White_Space, the characters that trimming
removes.  It is wider than the ASCII blanks that `Char.isWhitespace` knows.
-/

namespace Stencil.Text

/-- The characters with the Unicode property White_Space. -/
def isBlank (c : Char) : Bool :=
  let code := c.toNat
  (9 ≤ code && code ≤ 13) || code == 0x20 || code == 0x85 || code == 0xA0 ||
  code == 0x1680 || (0x2000 ≤ code && code ≤ 0x200A) || code == 0x2028 ||
  code == 0x2029 || code == 0x202F || code == 0x205F || code == 0x3000

/-- Removes blanks in front. -/
def trimStart (text : List Char) : List Char := text.dropWhile isBlank

/-- Removes blanks at the end. -/
def trimEnd (text : List Char) : List Char := (text.reverse.dropWhile isBlank).reverse

/-- Removes blanks on both sides. -/
def trim (text : List Char) : List Char := trimEnd (trimStart text)

/-- Everything the core library calls whitespace is blank. -/
theorem isBlank_of_isWhitespace {c : Char} (white : c.isWhitespace = true) :
    isBlank c = true := by
  simp only [Char.isWhitespace, Bool.or_eq_true, decide_eq_true_eq] at white
  rcases white with ((rfl | rfl) | rfl) | rfl <;> rfl

end Stencil.Text
