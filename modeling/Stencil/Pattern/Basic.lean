import Stencil.Pattern.CharSet

/-! # Patterns

The patterns of custom tags: regular expressions with capture groups, anchors
and greedy or lazy repetition.  Which of several matches is taken follows the
order of the alternatives, as in a search that backtracks.
-/

namespace Stencil

namespace Pattern

/-- A condition on the place between two characters. -/
inductive Anchor where
  | textStart
  | textEnd
  /-- After a line feed; with `carriage` carriage returns end lines too. -/
  | lineStart (carriage : Bool)
  | lineEnd (carriage : Bool)
  /-- Between a word character and another one; `ascii` narrows word characters
      to ASCII. -/
  | wordBoundary (ascii : Bool)
  | noWordBoundary (ascii : Bool)
  | wordStart (ascii : Bool)
  | wordEnd (ascii : Bool)
  | wordStartHalf (ascii : Bool)
  | wordEndHalf (ascii : Bool)
  deriving DecidableEq, Repr

/-- Whether an anchor holds between two neighbours. -/
def Anchor.holds (anchor : Anchor) (previous next : Option Char) : Bool :=
  let isWord (ascii : Bool) (c : Option Char) : Bool :=
    (c.map (if ascii then CharSet.asciiWord else CharSet.word).contains).getD false
  match anchor with
  | .textStart => previous.isNone
  | .textEnd => next.isNone
  | .lineStart carriage =>
    previous.isNone || previous == some '\n' ||
      (carriage && previous == some '\r' && next != some '\n')
  | .lineEnd carriage =>
    next.isNone || (carriage && next == some '\r') ||
      (next == some '\n' && !(carriage && previous == some '\r'))
  | .wordBoundary ascii => isWord ascii previous != isWord ascii next
  | .noWordBoundary ascii => isWord ascii previous == isWord ascii next
  | .wordStart ascii => !isWord ascii previous && isWord ascii next
  | .wordEnd ascii => isWord ascii previous && !isWord ascii next
  | .wordStartHalf ascii => !isWord ascii previous
  | .wordEndHalf ascii => !isWord ascii next

/-- A regular expression. -/
inductive Regex where
  | empty
  | set (chars : CharSet)
  | anchor (anchor : Anchor)
  | seq (first second : Regex)
  | alt (first second : Regex)
  /-- At least `min` and, if given, at most `max` times; greedy repetition
      prefers more rounds. -/
  | repeated (body : Regex) (min : Nat) (max : Option Nat) (greedy : Bool)
  | group (index : Nat) (body : Regex)
  deriving DecidableEq, Repr, Inhabited

namespace Regex

/-- Whether the expression can only match the empty text. -/
def isZeroWidth : Regex → Bool
  | .empty | .anchor _ => true
  | .set _ => false
  | .seq first second | .alt first second => first.isZeroWidth && second.isZeroWidth
  | .repeated body _ max _ => body.isZeroWidth || max == some 0
  | .group _ body => body.isZeroWidth

/-- How often a repetition is written out. -/
def copies (min : Nat) (max : Option Nat) : Nat := (max.getD min) + 1

/-- A bound on the ways in which a partly matched expression can go on. -/
def weight : Regex → Nat
  | .empty | .set _ | .anchor _ => 1
  | .seq first second | .alt first second => first.weight + second.weight + 1
  | .repeated body min max _ => (body.weight + 3) * copies min max + 2
  | .group _ body => body.weight + 2

end Regex

end Pattern

/-- A pattern: its expression and the names of its groups, group 0 first. -/
structure Pattern where
  regex : Pattern.Regex
  groups : List (Option (List Char))
  deriving DecidableEq, Repr, Inhabited

end Stencil
