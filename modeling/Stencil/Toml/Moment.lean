import Stencil.Text.Utf8

/-! # Dates and times

A moment is a date, a time, or a date and a time with or without an offset.  The
seconds may be left out.  Its notation is made uniform: a `T` before the time, a
`Z` for no offset, no zeros at the end of a fraction.
-/

namespace Stencil.Toml

/-- The number that exactly `width` digits in front denote. -/
def fixedDigits? (width : Nat) (text : List Char) : Option (Nat × List Char) :=
  let digits := text.take width
  if digits.length = width && digits.all Char.isDigit then
    some (digits.foldl (fun sum c => 10 * sum + (c.toNat - 48)) 0, text.drop width)
  else none

/-- A number with zeros in front of it up to a width. -/
def padded (width n : Nat) : List Char :=
  let digits := Text.decimal n
  List.replicate (width - digits.length) '0' ++ digits

/-- The number of days in a month. -/
def daysIn (year month : Nat) : Nat :=
  if month = 2 then
    if year % 4 = 0 && (year % 100 ≠ 0 || year % 400 = 0) then 29 else 28
  else if month = 4 || month = 6 || month = 9 || month = 11 then 30 else 31

/-- Reads a date. -/
def readDate? (text : List Char) : Option (List Char × List Char) := do
  let (year, rest) ← fixedDigits? 4 text
  let rest ← ['-'].isPrefixOf? rest
  let (month, rest) ← fixedDigits? 2 rest
  let rest ← ['-'].isPrefixOf? rest
  let (day, rest) ← fixedDigits? 2 rest
  guard (1 ≤ month && month ≤ 12 && 1 ≤ day && day ≤ daysIn year month)
  return (padded 4 year ++ ['-'] ++ padded 2 month ++ ['-'] ++ padded 2 day, rest)

/-- Reads what may follow the seconds: a fraction, of which nine digits count. -/
def readFraction? : List Char → Option (List Char × List Char)
  | '.' :: rest =>
    let digits := rest.takeWhile Char.isDigit
    let kept := ((digits.take 9).reverse.dropWhile (· = '0')).reverse
    if digits.isEmpty then none
    else some ('.' :: if kept.isEmpty then ['0'] else kept, rest.dropWhile Char.isDigit)
  | rest => some ([], rest)

/-- Reads a time of day. -/
def readTime? (text : List Char) : Option (List Char × List Char) := do
  let (hour, rest) ← fixedDigits? 2 text
  let rest ← [':'].isPrefixOf? rest
  let (minute, rest) ← fixedDigits? 2 rest
  guard (hour ≤ 23 && minute ≤ 59)
  let clock := padded 2 hour ++ [':'] ++ padded 2 minute
  match rest with
  | ':' :: rest => do
    let (second, rest) ← fixedDigits? 2 rest
    guard (second ≤ 60)
    let (fraction, rest) ← readFraction? rest
    return (clock ++ [':'] ++ padded 2 second ++ fraction, rest)
  | _ => return (clock, rest)

/-- The notation of an offset, which is all that is left of a moment. -/
def offset? : List Char → Option (List Char)
  | [] => some []
  | ['z'] | ['Z'] => some ['Z']
  | sign :: rest => do
    guard (sign = '+' || sign = '-')
    let (hour, rest) ← fixedDigits? 2 rest
    let rest ← [':'].isPrefixOf? rest
    let (minute, rest) ← fixedDigits? 2 rest
    guard (hour ≤ 23 && minute ≤ 59 && rest.isEmpty)
    let shown := if hour = 0 && minute = 0 then '+' else sign
    return shown :: padded 2 hour ++ [':'] ++ padded 2 minute

/-- The uniform notation of a moment. -/
def moment? (text : List Char) : Option (List Char) :=
  match readDate? text with
  | some (date, []) => some date
  | some (date, separator :: rest) => do
    guard (separator = 'T' || separator = 't' || separator = ' ')
    let (time, rest) ← readTime? rest
    return date ++ ['T'] ++ time ++ (← offset? rest)
  | none => do
    let (time, rest) ← readTime? text
    guard rest.isEmpty
    return time

end Stencil.Toml
