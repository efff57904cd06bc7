import Routebook.Binary64

namespace Routebook

/-!
# Shortest decimal text of a number

A binary64 number is written with the fewest decimal digits that read back as the same
number, and of two candidates with that many digits with the nearer one.  The digits are
found on ever finer decimal grids: on each grid only the two neighbours of the number can
lie among the reals that round to it.

How the digits are laid out (where positional notation ends, whether a positive exponent has
a sign) is a property of the document format and is given as a `NumberStyle`.
-/

/-- A decimal number `digits * 10 ^ exponent`. -/
structure Decimal where
  digits : Nat
  exponent : Int
  deriving DecidableEq, Repr

def decimalDigits (n : Nat) : List Char :=
  Nat.toDigits 10 n

namespace Decimal

/-- The same number without trailing zeros among the digits. -/
def stripZeros (fuel : Nat) (value : Decimal) : Decimal :=
  match fuel with
  | 0 => value
  | fuel + 1 =>
    if value.digits ≠ 0 ∧ value.digits % 10 = 0 then
      stripZeros fuel ⟨value.digits / 10, value.exponent + 1⟩
    else value

end Decimal

/-- The reals that round to a positive number, as numerators over one denominator. -/
structure RoundingInterval where
  low : Nat
  value : Nat
  high : Nat
  denominator : Nat
  /-- The ends belong to the interval. -/
  closed : Bool

namespace RoundingInterval

/-- The ends are half way to the neighbouring numbers.  The lower neighbour of a power of two
is only half as far away, except at the least scale.  A tie rounds to the even significand,
which decides whether the ends belong to the interval. -/
def of (x : Binary64) : RoundingInterval :=
  let unit := Nat.pow 2 x.scale.toNat
  let below := if x.significand = leadingBit ∧ x.scale ≠ -1074 then unit else 2 * unit
  let value := 4 * x.significand * unit
  { low := value - below
    value := value
    high := value + 2 * unit
    denominator := 4 * Nat.pow 2 (-x.scale).toNat
    closed := x.significand % 2 = 0 }

/-- The decimal exponent of the leading digit. -/
def magnitude (interval : RoundingInterval) : Int :=
  if interval.denominator ≤ interval.value then
    ((decimalDigits (interval.value / interval.denominator)).length : Int) - 1
  else
    let quotient := (interval.denominator + interval.value - 1) / interval.value
    Int.negOfNat (decimalDigits (quotient - 1)).length

def scaleDown (interval : RoundingInterval) (exponent : Int) : RoundingInterval :=
  let factor := Nat.pow 10 (-exponent).toNat
  { low := interval.low * factor
    value := interval.value * factor
    high := interval.high * factor
    denominator := interval.denominator * Nat.pow 10 exponent.toNat
    closed := interval.closed }

def holds (interval : RoundingInterval) (n : Nat) : Bool :=
  let point := n * interval.denominator
  if interval.closed then interval.low ≤ point && point ≤ interval.high
  else interval.low < point && point < interval.high

/-- The integer in the interval that is nearest to the value, among the value's two
neighbours.  A tie goes to the even one. -/
def nearest? (interval : RoundingInterval) : Option Nat :=
  let lower := interval.value / interval.denominator
  let upper := lower + 1
  match interval.holds lower, interval.holds upper with
  | true, true =>
    let remainder := interval.value % interval.denominator
    some (if 2 * remainder < interval.denominator ||
        (2 * remainder == interval.denominator && lower % 2 == 0) then lower else upper)
  | true, false => some lower
  | false, true => some upper
  | false, false => none

/-- The first hit on grids of increasing fineness, beginning with the given exponent. -/
def search (interval : RoundingInterval) (exponent : Int) : Nat → Decimal
  | 0 => ⟨interval.value / interval.denominator, 0⟩
  | fuel + 1 =>
    match (interval.scaleDown exponent).nearest? with
    | some digits => ⟨digits, exponent⟩
    | none => search interval (exponent - 1) fuel

end RoundingInterval

/-- The shortest decimal magnitude that reads back as the number.  Seventeen digits always
suffice. -/
def Binary64.shortest (x : Binary64) : Decimal :=
  if x.significand = 0 then ⟨0, 0⟩
  else
    let interval := RoundingInterval.of x
    (interval.search interval.magnitude 18).stripZeros 18

/-- How a document format lays out the digits of a number. -/
structure NumberStyle where
  /-- The least decimal exponent that is written positionally. -/
  leastPositional : Int
  /-- The least decimal exponent from which an exponent is written. -/
  firstExponential : Int
  /-- A positive exponent is written with a plus sign. -/
  plusSign : Bool

namespace NumberStyle

/-- Digits with a point, always with a fraction. -/
def positional (digits : List Char) (exponent : Int) : List Char :=
  if 0 ≤ exponent then
    let whole := digits.take (exponent.toNat + 1)
    let padding := List.replicate (exponent.toNat + 1 - digits.length) '0'
    let fraction := digits.drop (exponent.toNat + 1)
    whole ++ padding ++ '.' :: (if fraction.isEmpty then ['0'] else fraction)
  else
    '0' :: '.' :: List.replicate ((-exponent).toNat - 1) '0' ++ digits

/-- One digit, the others as a fraction if there are any, and the exponent. -/
def exponential (style : NumberStyle) (digits : List Char) (exponent : Int) : List Char :=
  let fraction := digits.drop 1
  let sign := if exponent < 0 then ['-'] else if style.plusSign then ['+'] else []
  digits.take 1 ++ (if fraction.isEmpty then [] else '.' :: fraction) ++
    'e' :: sign ++ decimalDigits exponent.natAbs

def write (style : NumberStyle) (x : Binary64) : List Char :=
  let shortest := x.shortest
  let digits := decimalDigits shortest.digits
  let exponent := shortest.exponent + (digits.length : Int) - 1
  let magnitude :=
    if style.leastPositional ≤ exponent && exponent < style.firstExponential then
      positional digits exponent
    else style.exponential digits exponent
  if x.negative then '-' :: magnitude else magnitude

end NumberStyle

end Routebook
