import Stencil.Json.Reader
import Stencil.Text.Search

/-! # TOML numbers

Digits may be grouped by single underscores.  Whole numbers have 64 bits and may
be written in four bases; numbers with a point or an exponent are floating-point.
-/

namespace Stencil.Toml

open Stencil.Json (hexValue?)

/-- The digits of a number, without the underscores that group them. -/
def ungrouped? (isDigit : Char → Bool) (text : List Char) : Option (List Char) :=
  let groups := Text.splitOn '_' text
  if groups.all fun group => !group.isEmpty && group.all isDigit then some groups.flatten else none

/-- The number that digits denote in a base. -/
def numberOf (base : Nat) (digits : List Char) : Nat :=
  digits.foldl (fun sum c => base * sum + (hexValue? c).getD 0) 0

/-- Whether a character is a digit in a base. -/
def isDigitOf (base : Nat) (c : Char) : Bool := (hexValue? c).any (· < base)

/-- A number in decimal digits, with no zero in front of others. -/
def wholeDigits? (text : List Char) : Option (List Char) := do
  let digits ← ungrouped? Char.isDigit text
  guard (digits.length = 1 || text.head? ≠ some '0')
  return digits

/-- A sign and what follows it. -/
def splitSign : List Char → Bool × List Char
  | '-' :: rest => (true, rest)
  | '+' :: rest => (false, rest)
  | text => (false, text)

/-- The whole number that a text denotes. -/
def integer? (text : List Char) : Option Int := do
  let inBase (base : Nat) (rest : List Char) : Option Nat :=
    (ungrouped? (isDigitOf base) rest).map (numberOf base)
  let value : Int ← match text with
    | '0' :: 'x' :: rest => (inBase 16 rest).map Int.ofNat
    | '0' :: 'o' :: rest => (inBase 8 rest).map Int.ofNat
    | '0' :: 'b' :: rest => (inBase 2 rest).map Int.ofNat
    | _ =>
      let (negative, rest) := splitSign text
      (wholeDigits? rest).map fun digits =>
        if negative then -(numberOf 10 digits : Int) else numberOf 10 digits
  guard (Int64.minValue.toInt ≤ value && value ≤ Int64.maxValue.toInt)
  return value

/-- The floating-point number nearest to `digits * 10 ^ exponent`, unless it is
    too large.  Far from one there is nothing left to compute. -/
def nearest? (digits : List Char) (exponent : Int) : Option Float :=
  let value := numberOf 10 digits
  let magnitude := exponent + (Text.decimal value).length
  if value = 0 || magnitude < -400 then some 0.0
  else if 400 < magnitude then none
  else
    let float := Float.ofScientific value (exponent < 0) exponent.natAbs
    if float.isInf then none else some float

/-- The exponent after the mark `e`; without the mark it is zero. -/
def exponent? : Option (List Char) → Option Int
  | none => some 0
  | some text => do
    let (negative, rest) := splitSign text
    let digits ← ungrouped? Char.isDigit rest
    return if negative then -(numberOf 10 digits : Int) else numberOf 10 digits

/-- The floating-point number that a text denotes. -/
def float? (text : List Char) : Option Float := do
  let (negative, rest) := splitSign text
  let size : Float ←
    if rest = "inf".toList then some (1.0 / 0.0)
    else if rest = "nan".toList then some (0.0 / 0.0)
    else do
      let isMark (c : Char) : Bool := c == 'e' || c == 'E'
      let mantissa := rest.takeWhile (!isMark ·)
      let exponent ← match rest.dropWhile (!isMark ·) with
        | [] => exponent? none
        | _ :: after => exponent? (some after)
      match Text.splitFirst? ['.'] mantissa with
      | some (whole, fraction) => do
        let whole ← wholeDigits? whole
        let fraction ← ungrouped? Char.isDigit fraction
        nearest? (whole ++ fraction) (exponent - fraction.length)
      | none => do
        guard (mantissa.length < rest.length)
        nearest? (← wholeDigits? mantissa) exponent
  return if negative then -size else size

end Stencil.Toml
