namespace Routebook

/-!
# Finite numbers of double precision

A number that is not an integer is kept with the precision of IEEE 754 binary64.  The fields
of the format are kept as they are stored, so that every value of the type is a finite number
and two equal numbers with the same sign are one value.  All arithmetic is exact arithmetic
on natural numbers followed by one rounding; nothing here depends on a machine's unit.

Main definitions: `Binary64.ofRatio?` rounds a quotient to the nearest number, a tie going to
the even significand, and answers nothing when the result would be infinite; the product,
the quotient and the reading of a decimal number are derived from it.
-/

/-- Two to the power of 52, the weight of the leading bit of a normal significand. -/
abbrev leadingBit : Nat := 0x10000000000000

/-- A finite binary64 number by its sign, its biased exponent and its fraction. -/
structure Binary64 where
  negative : Bool
  exponent : Fin 2047
  fraction : Fin leadingBit
  deriving DecidableEq, Repr

namespace Binary64

def zero (negative : Bool) : Binary64 :=
  ⟨negative, 0, 0⟩

/-- The integer that the power of two multiplies. -/
def significand (x : Binary64) : Nat :=
  if x.exponent.val = 0 then x.fraction.val else leadingBit + x.fraction.val

/-- The exponent of the power of two that the significand is multiplied by. -/
def scale (x : Binary64) : Int :=
  if x.exponent.val = 0 then -1074 else (x.exponent.val : Int) - 1075

/-- The magnitude is this numerator over `denominator`. -/
def numerator (x : Binary64) : Nat :=
  x.significand * Nat.pow 2 x.scale.toNat

/-- A power of two, one for a number without a fractional part. -/
def denominator (x : Binary64) : Nat :=
  Nat.pow 2 (-x.scale).toNat

/-! ## Rounding -/

/-- The integer nearest to a quotient.  A tie goes to the even one. -/
def roundQuotient (num den : Nat) : Nat :=
  let quotient := num / den
  let remainder := num % den
  if den < 2 * remainder || (2 * remainder == den && quotient % 2 == 1) then quotient + 1
  else quotient

/-- Store a rounded significand of at most `2 ^ 53`.  Below `2 ^ 52` the number is subnormal
and its scale is the least one. -/
def store? (negative : Bool) (significand : Nat) (scale : Int) : Option Binary64 :=
  if significand < leadingBit then
    some ⟨negative, 0, Fin.ofNat leadingBit significand⟩
  else
    let carried := significand == 2 * leadingBit
    let biased := (scale + 1075 + if carried then 1 else 0).toNat
    if bound : biased < 2047 then
      some ⟨negative, ⟨biased, bound⟩,
        Fin.ofNat leadingBit (if carried then 0 else significand)⟩
    else none

/-- The quotient over a power of two, as numerator and denominator. -/
def scaleDown (num den : Nat) (scale : Int) : Nat × Nat :=
  (num * Nat.pow 2 (-scale).toNat, den * Nat.pow 2 scale.toNat)

/-- The power of two that leaves a quotient with 53 binary digits before the point, or the
least power of the format. -/
def scaleFor (num den : Nat) : Int :=
  let guess : Int := (num.log2 : Int) - (den.log2 : Int) - 53
  let scaled := scaleDown num den guess
  max (-1074) (if scaled.1 / scaled.2 < 2 * leadingBit then guess else guess + 1)

/-- The number nearest to a quotient, if it is finite. -/
def ofRatio? (negative : Bool) (num den : Nat) : Option Binary64 :=
  if num = 0 then some (zero negative)
  else
    let scale := scaleFor num den
    let scaled := scaleDown num den scale
    store? negative (roundQuotient scaled.1 scaled.2) scale

def ofNat? (negative : Bool) (value : Nat) : Option Binary64 :=
  ofRatio? negative value 1

/-! ## Arithmetic on magnitudes -/

/-- The product with a positive number, if it is finite. -/
def times? (x y : Binary64) : Option Binary64 :=
  ofRatio? x.negative (x.numerator * y.numerator) (x.denominator * y.denominator)

def over? (x y : Binary64) : Option Binary64 :=
  ofRatio? x.negative (x.numerator * y.denominator) (x.denominator * y.numerator)

/-- The number nearest to `digits * 10 ^ exponent`, if it is finite.  A decimal number far
outside the range of the format is settled by counting its digits. -/
def ofDecimal? (negative : Bool) (digits : Nat) (exponent : Int) : Option Binary64 :=
  if digits = 0 then some (zero negative)
  else
    let magnitude : Int := (digits.log2 : Int) / 4 + exponent
    let height : Int := (digits.log2 : Int) + exponent
    if 400 < magnitude then none
    else if height < -400 then some (zero negative)
    else ofRatio? negative (digits * Nat.pow 10 exponent.toNat) (Nat.pow 10 (-exponent).toNat)

end Binary64

end Routebook
