import AddressPool.Text.Numeral

/-!
# Shortest decimals

A binary floating-point number stands for all the reals that round to it.  Among
the decimals in that interval the shortest is chosen, and among several of that
length the one nearest to the number; its digits read back to the number.  The
search is exact: it works on naturals, with the number taken apart into a
significand and a power of two.

`floatText` lays the digits out: without an exponent while the first digit stands
within five places behind the point and fifteen places before it, and always with a
point or an exponent.
-/

namespace AddressPool

set_option autoImplicit false

/-- A decimal: its digits as a number, and the power of ten that they count. -/
structure Decimal where
  digits : Nat
  exponent : Int
  deriving DecidableEq, Repr

namespace Decimal

/-- The positive rational `numerator / denominator`, with the bounds of the reals that round to a
floating-point number around it, all over one denominator. -/
structure Rounding where
  low : Nat
  value : Nat
  high : Nat
  denominator : Nat
  /-- Whether the bounds themselves round to the number. -/
  closed : Bool

/-- The reals that round to `significand * 2 ^ exponent`; at the lower end of a binade, except for
the lowest one, the neighbour below is only half as far away. -/
def Rounding.of (significand : Nat) (exponent : Int) (lowerEnd : Bool) : Rounding :=
  let scale := 2 ^ (exponent - 2).toNat
  { low := (4 * significand - if lowerEnd then 1 else 2) * scale
    value := 4 * significand * scale
    high := (4 * significand + 2) * scale
    denominator := 2 ^ (2 - exponent).toNat
    closed := significand % 2 == 0 }

/-- Whether `count * 10 ^ exponent` rounds to the number. -/
def Rounding.holds (rounding : Rounding) (count : Nat) (exponent : Int) : Bool :=
  let point := count * 10 ^ exponent.toNat * rounding.denominator
  let scale := 10 ^ (-exponent).toNat
  if rounding.closed then
    decide (rounding.low * scale ≤ point ∧ point ≤ rounding.high * scale)
  else decide (rounding.low * scale < point ∧ point < rounding.high * scale)

/-- The multiples of `10 ^ exponent` next to the number, as the lower count and twice the part of
a step that is left over it, over a common denominator. -/
def Rounding.neighbours (rounding : Rounding) (exponent : Int) : Nat × Ordering :=
  let numerator := rounding.value * 10 ^ (-exponent).toNat
  let denominator := rounding.denominator * 10 ^ exponent.toNat
  (numerator / denominator, compare (2 * (numerator % denominator)) denominator)

/-- The multiple of `10 ^ exponent` that rounds to the number and is nearest to it. -/
def Rounding.onGrid? (rounding : Rounding) (exponent : Int) : Option Nat :=
  let (lower, side) := rounding.neighbours exponent
  match rounding.holds lower exponent, rounding.holds (lower + 1) exponent with
  | true, false => some lower
  | false, true => some (lower + 1)
  | false, false => none
  | true, true => match side with
    | .lt => some lower
    | .gt => some (lower + 1)
    | .eq => some (if lower % 2 = 0 then lower else lower + 1)

/-- The power of ten of the first digit of `numerator / denominator`, which is at least one. -/
def leadingPower (numerator denominator : Nat) : Nat :=
  (Numeral.decimal (numerator / denominator)).length - 1

/-- The least power of ten that lifts `numerator / denominator` to one or more. -/
def liftingPower (numerator denominator : Nat) : Nat → Nat
  | 0 => 0
  | fuel + 1 =>
    if denominator ≤ numerator then 0 else liftingPower (numerator * 10) denominator fuel + 1

/-- The power of ten of the first digit of the number. -/
def Rounding.magnitude (rounding : Rounding) : Int :=
  if rounding.denominator ≤ rounding.value then
    leadingPower rounding.value rounding.denominator
  else -(liftingPower rounding.value rounding.denominator 400 : Nat)

/-- Searches the grids of more and more digits. -/
def Rounding.search (rounding : Rounding) : Nat → Int → Decimal
  | 0, exponent => ⟨(rounding.neighbours exponent).1, exponent⟩
  | fuel + 1, exponent => match rounding.onGrid? exponent with
    | some count => ⟨count, exponent⟩
    | none => rounding.search fuel (exponent - 1)

/-- The shortest decimal that rounds to the number. -/
def Rounding.shortest (rounding : Rounding) : Decimal := rounding.search 17 rounding.magnitude

/-- The significand and the exponent of the absolute value in the bits of a double. -/
def parts (bits : Nat) : Nat × Int :=
  let fraction : Nat := bits % 2 ^ 52
  let biased : Nat := bits / 2 ^ 52 % 2 ^ 11
  if biased = 0 then (fraction, -1074) else (fraction + 2 ^ 52, (biased : Int) - 1075)

/-- The shortest decimal of the absolute value in the bits of a finite double; zero is zero. -/
def ofBits (bits : Nat) : Decimal :=
  let significand := (parts bits).1
  let exponent := (parts bits).2
  if significand = 0 then ⟨0, 0⟩
  else
    let lowerEnd := significand == 2 ^ 52 && decide (-1074 < exponent)
    (Rounding.of significand exponent lowerEnd).shortest

/-- The digits of a decimal without zeros at the end, and the power of ten of the first digit. -/
def normalize (decimal : Decimal) : List Char × Int :=
  let digits := Numeral.decimal decimal.digits
  let shown := (digits.reverse.dropWhile (· == '0')).reverse
  (if shown.isEmpty then ['0'] else shown, decimal.exponent + (digits.length - 1 : Nat))

/-- Digits with a point and no exponent. -/
def positional (digits : List Char) (power : Int) : List Char :=
  if power < 0 then '0' :: '.' :: List.replicate (-power - 1).toNat '0' ++ digits
  else
    let whole := power.toNat + 1
    let fraction := digits.drop whole
    digits.take whole ++ List.replicate (whole - digits.length) '0' ++
      '.' :: (if fraction.isEmpty then ['0'] else fraction)

/-- Digits with an exponent, which always has a sign. -/
def scientific (digits : List Char) (power : Int) : List Char :=
  let fraction := digits.drop 1
  digits.take 1 ++ (if fraction.isEmpty then [] else '.' :: fraction) ++
    ['e', if power < 0 then '-' else '+'] ++ Numeral.decimal power.natAbs

/-- The text of the finite double with the given bits. -/
def textOfBits (bits : Nat) : String :=
  let (digits, power) := normalize (ofBits bits)
  let body := if -5 ≤ power ∧ power ≤ 15 then positional digits power else scientific digits power
  String.ofList ((if 2 ^ 63 ≤ bits then ['-'] else []) ++ body)

/-- The text of a finite double. -/
def floatText (value : Float) : String := textOfBits value.toBits.toNat

end Decimal

end AddressPool
