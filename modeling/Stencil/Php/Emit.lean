import Stencil.Php.Inline
import Stencil.Program.Instruction

/-! # Host code of a program

Every instruction is written as inline text or as a block of PHP between its
opening and closing markers.  The whole artifact begins with a header that
keeps it from running on its own.

* `expression` — an expression as host code;
* `instruction` — one instruction;
* `emit` — the artifact: neighbouring blocks are joined, and a newline after a
  block is doubled, because the host drops one.
-/

namespace Stencil.Php

open Stencil.Program (Instruction Loop LoopSource IncludeTarget)
open Stencil.Text (replaceAll decimal)

/-- The header of every artifact. -/
def safetyHeader : List Char :=
  "<?php namespace MythTPL\\Template; if(!class_exists('MythTPL\\MythTPL'))\x7bexit;\x7d?>".toList

/-- An expression as host code. -/
def expression : Expr → List Char
  | .code text => text
  | .modifier name target (some arguments) =>
    name ++ ['('] ++ expression target ++ [','] ++ arguments ++ [')']
  | .modifier name target none => name ++ ['('] ++ expression target ++ [')']
  | .escape inner charset =>
    "htmlspecialchars( ".toList ++ expression inner ++
      ", ENT_QUOTES | ENT_SUBSTITUTE | ENT_HTML401, '".toList ++ charset ++ "', FALSE )".toList
  | .ternary condition ifTrue ifFalse =>
    ['('] ++ expression condition ++ ['?'] ++ expression ifTrue ++ [':'] ++ expression ifFalse ++
      [')']
  | .call function => function ++ "()".toList
  | .callWith function arguments => function ++ ['('] ++ expression arguments ++ [')']

/-- Code between the markers of a block. -/
def block (code : List Char) : List Char := "<?php ".toList ++ code ++ " ?>".toList

/-- The collection a loop goes over, and the code that computes it first if it
    is no variable. -/
def loopCollection (header : Loop) : List Char × List Char :=
  match header.source with
  | .direct code => (code, [])
  | .computed expr =>
    let name := "$newvar".toList ++ decimal header.level
    (name, name ++ ['='] ++ expression expr ++ [';'])

/-- The opening of a loop.  It counts its rounds from zero, and goes over
    nothing unless the collection holds something. -/
def loopOpening (header : Loop) : List Char :=
  let (collection, assignment) := loopCollection header
  block <| header.counter ++ "=-1; ".toList ++ assignment ++ " if( (".toList ++ collection ++
    " !== null) && ( is_array(".toList ++ collection ++ ") || ".toList ++ collection ++
    " instanceof Traversable ) && sizeof(".toList ++ collection ++ ") ) foreach( ".toList ++
    collection ++ " as ".toList ++ header.key ++ " => ".toList ++ header.value ++
    " )\x7b ".toList ++ header.counter ++ "++;".toList

/-- An instruction as inline text or a block. -/
def instruction : Instruction → List Char
  | .text content => sanitize content
  | .output expr => block ("echo ".toList ++ expression expr ++ [';'])
  | .statement expr => block (expression expr ++ [';'])
  | .loopOpen header => loopOpening header
  | .loopClose | .ifClose => block ['}']
  | .loopBreak => block "break;".toList
  | .loopContinue => block "continue;".toList
  | .ifOpen condition => block ("if( ".toList ++ expression condition ++ " )\x7b".toList)
  | .elseIf condition =>
    block ("\x7delseif( ".toList ++ expression condition ++ " )\x7b".toList)
  | .otherwise => block "\x7delse\x7b".toList
  | .rawCodeOpen => "<?php ".toList
  | .rawCodeClose => " ?>".toList
  | .notice message => block ("/* ".toList ++ message ++ " */".toList)
  | .inclusion (.fixed path) =>
    "<?php require $this->processTemplate(\"".toList ++ path ++ "\");?>".toList
  | .inclusion (.dynamic folder path) =>
    "<?php require $this->processTemplate('".toList ++ folder ++ "'.".toList ++
      expression path ++ ");?>".toList
  | .customTag name tagMatches =>
    block ("echo call_user_func( static::$registered_tags['".toList ++ quoteSingle name ++
      "']['function'], ".toList ++ exportMatches tagMatches ++ " );".toList)

/-- Joins neighbouring blocks into one. -/
def joinBlocks (body : List Char) : List Char :=
  replaceAll "?><?php".toList " ".toList body

/-- Doubles the newline directly after a block. -/
def doubleNewlines (artifact : List Char) : List Char :=
  replaceAll "?>\n".toList "?>\n\n".toList artifact

/-- The artifact of a program. -/
def emit (program : Program) : List Char :=
  doubleNewlines (safetyHeader ++ joinBlocks (program.instructions.flatMap instruction))

end Stencil.Php
