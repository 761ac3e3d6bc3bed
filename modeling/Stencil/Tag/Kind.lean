/-! # Built-in tag kinds

The tags that the template language defines itself, in the order in which a
candidate is tried against them.  The first three close a region in which other
tags are not looked at; the rest are the *ordinary* kinds.
-/

namespace Stencil.Tag

/-- A built-in tag. -/
inductive TagKind where
  | rawCodeClose
  | ignoreClose
  | noParseClose
  | ignoreOpen
  | noParseOpen
  | rawCodeOpen
  | inclusion
  | loopOpen
  | loopClose
  | loopBreak
  | loopContinue
  | ifOpen
  | elseIf
  | otherwise
  | ifClose
  | autoescapeOpen
  | autoescapeClose
  | functionCall
  | ternary
  | variableTag
  | constantTag
  deriving DecidableEq, Repr

/-- Every kind, in the order of trial. -/
def TagKind.all : List TagKind :=
  [.rawCodeClose, .ignoreClose, .noParseClose, .ignoreOpen, .noParseOpen, .rawCodeOpen,
   .inclusion, .loopOpen, .loopClose, .loopBreak, .loopContinue, .ifOpen, .elseIf, .otherwise,
   .ifClose, .autoescapeOpen, .autoescapeClose, .functionCall, .ternary, .variableTag,
   .constantTag]

/-- The kinds that are recognised outside suppressed regions only. -/
def TagKind.ordinary : List TagKind := TagKind.all.drop 3

/-- The name of a kind, as it is written in templates where it has a keyword. -/
def TagKind.name : TagKind → List Char
  | .rawCodeClose => "/php".toList
  | .ignoreClose => "/ignore".toList
  | .noParseClose => "/noparse".toList
  | .ignoreOpen => "ignore".toList
  | .noParseOpen => "noparse".toList
  | .rawCodeOpen => "php".toList
  | .inclusion => "include".toList
  | .loopOpen => "loop".toList
  | .loopClose => "/loop".toList
  | .loopBreak => "break".toList
  | .loopContinue => "continue".toList
  | .ifOpen => "if".toList
  | .elseIf => "elseif".toList
  | .otherwise => "else".toList
  | .ifClose => "/if".toList
  | .autoescapeOpen => "autoescape".toList
  | .autoescapeClose => "/autoescape".toList
  | .functionCall => "function".toList
  | .ternary => "ternary".toList
  | .variableTag => "variable".toList
  | .constantTag => "constant".toList

/-- How many arguments a tag of the kind can have. -/
def TagKind.arity : TagKind → Nat
  | .inclusion | .ifOpen | .elseIf | .autoescapeOpen => 1
  | .functionCall => 2
  | .loopOpen | .ternary => 3
  | _ => 0

theorem TagKind.mem_all (kind : TagKind) : kind ∈ TagKind.all := by
  cases kind <;> decide

end Stencil.Tag
