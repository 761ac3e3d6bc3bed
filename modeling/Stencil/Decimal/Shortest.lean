import Stencil.Text.Utf8

/-! # The shortest decimal of a binary fraction

A binary floating-point number stands for all reals that round to it.  Its text
is the decimal with the fewest digits among them, and of two such decimals the
nearer one.

* `onGrid?` — the multiple of a power of ten that rounds to the number;
* `shortest?` — the multiple of the largest power of ten that does;
* `Decimal.positional` — the text of a decimal without an exponent;
* `floatText` — the text of any floating-point number.
-/

namespace Stencil

/-- The value `digits * 10 ^ exponent`. -/
structure Decimal where
  digits : Nat
  exponent : Int
  deriving DecidableEq, Repr

namespace Decimal

/-- The value `mantissa * 2 ^ exponent`, as floating-point numbers hold it. -/
structure Binary where
  mantissa : Nat
  exponent : Int
  deriving DecidableEq, Repr

/-- A power of ten. -/
def tenTo (exponent : Nat) : Nat := Nat.pow 10 exponent

/-- Whether the gap below a number is half the gap above it, which is so at
    powers of two that are not subnormal. -/
def Binary.isNarrowBelow (value : Binary) : Bool :=
  value.mantissa == 1 <<< 52 && value.exponent > -1074

/-- The multiple of `10 ^ power` that rounds to the number, the nearer one if
    there are two.  Everything is measured in quarters of the number's last
    place, scaled to whole numbers. -/
def onGrid? (value : Binary) (power : Int) : Option Decimal :=
  let exponent := value.exponent - 2
  let scaled (quarters : Nat) : Nat := (quarters <<< exponent.toNat) * tenTo (-power).toNat
  let unit := tenTo power.toNat <<< (-exponent).toNat
  let exact := scaled (4 * value.mantissa)
  let low := scaled (4 * value.mantissa - if value.isNarrowBelow then 1 else 2)
  let high := scaled (4 * value.mantissa + 2)
  -- The ends of the interval round to the even mantissa.
  let roundsBack (count : Nat) : Bool :=
    if value.mantissa % 2 = 0 then low ≤ count * unit && count * unit ≤ high
    else low < count * unit && count * unit < high
  let below := exact / unit
  let above := below + 1
  match 0 < below && roundsBack below, roundsBack above with
  | true, true =>
    some ⟨if exact - below * unit < above * unit - exact then below else above, power⟩
  | true, false => some ⟨below, power⟩
  | false, true => some ⟨above, power⟩
  | false, false => none

/-- The decimal with the fewest digits that rounds to the number: the one on the
    coarsest grid that holds any. -/
def shortest? (value : Binary) : Option Decimal :=
  (List.range 700).findSome? fun step => onGrid? value (320 - Int.ofNat step)

/-- The text of a decimal, with a point only if there is a fraction. -/
def positional (value : Decimal) : List Char :=
  let digits := Text.decimal value.digits
  if 0 ≤ value.exponent then digits ++ List.replicate value.exponent.toNat '0'
  else
    let places := (-value.exponent).toNat
    if places < digits.length then
      digits.take (digits.length - places) ++ ['.'] ++ digits.drop (digits.length - places)
    else
      ['0', '.'] ++ List.replicate (places - digits.length) '0' ++ digits

/-- The text of a floating-point number. -/
def floatText (value : Float) : List Char :=
  let bits := value.toBits.toNat
  let sign := if bits >>> 63 = 1 then ['-'] else []
  let exponent := (bits >>> 52) % 2048
  let fraction := bits % (1 <<< 52)
  if exponent = 2047 then
    if fraction = 0 then sign ++ "inf".toList else "NaN".toList
  else if exponent = 0 && fraction = 0 then sign ++ ['0']
  else
    let parts : Binary :=
      if exponent = 0 then ⟨fraction, -1074⟩ else ⟨(1 <<< 52) + fraction, Int.ofNat exponent - 1075⟩
    sign ++ ((shortest? parts).map positional).getD []

end Decimal

end Stencil
