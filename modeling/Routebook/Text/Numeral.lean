import Routebook.Binary64
import Routebook.Text.Casing
import Routebook.Text.Cut

namespace Routebook
namespace Text

/-!
# Numbers in free text

An example is written by hand, so a number in it may have a plus sign, a point without
digits on one side, or be infinite.  An integer is read only if 64 bits with a sign hold it;
a real number is read exactly and rounded once.
-/

/-- A number of double precision, or one of the values beyond the finite ones. -/
inductive ExtendedReal where
  | finite (value : Binary64)
  | infinite (negative : Bool)
  | notANumber
  deriving DecidableEq, Repr

/-- The sign of a number, true for a minus, and the text behind it. -/
def takeSign : List Char → Bool × List Char
  | '-' :: rest => (true, rest)
  | '+' :: rest => (false, rest)
  | text => (false, text)

def naturalOf (base : Nat) (digits : List Nat) : Nat :=
  digits.foldl (fun value digit => value * base + digit) 0

def naturalOfDigits (digits : List Char) : Nat :=
  naturalOf 10 (digits.map digitValue)

/-- An integer in decimal digits with an optional sign, if 64 bits with a sign hold it. -/
def integer? (text : List Char) : Option Int :=
  let (negative, digits) := takeSign text
  if digits.isEmpty || !digits.all isDigit then none
  else
    let magnitude := naturalOfDigits digits
    let value : Int := if negative then -(magnitude : Int) else magnitude
    if -0x8000000000000000 ≤ value ∧ value < 0x8000000000000000 then some value else none

/-- The exponent of a number up to the end of its text: nothing, or a letter with an optional
sign and at least one digit. -/
def exponent? : List Char → Option Int
  | [] => some 0
  | mark :: rest =>
    if mark == 'e' || mark == 'E' then
      let (negative, digits) := takeSign rest
      if digits.isEmpty || !digits.all isDigit then none
      else if negative then some (-(naturalOfDigits digits : Int))
      else some (naturalOfDigits digits)
    else none

/-- The magnitude of a decimal number: digits, a point with digits and an exponent.  A digit
on one side of the point suffices. -/
def magnitude? (negative : Bool) (text : List Char) : Option ExtendedReal := do
  let whole := text.takeWhile isDigit
  let rest := text.dropWhile isDigit
  let (fraction, rest) :=
    match rest with
    | '.' :: rest => (rest.takeWhile isDigit, rest.dropWhile isDigit)
    | _ => ([], rest)
  if whole.isEmpty && fraction.isEmpty then none
  else
    let exponent ← exponent? rest
    match Binary64.ofDecimal? negative (naturalOfDigits (whole ++ fraction))
        (exponent - fraction.length) with
    | some value => some (.finite value)
    | none => some (.infinite negative)

/-- A real number with an optional sign.  The names of the values beyond the finite ones are
read in any case. -/
def real? (text : List Char) : Option ExtendedReal :=
  let (negative, unsigned) := takeSign text
  let name := String.ofList (unsigned.map Char.toLower)
  if name == "inf" || name == "infinity" then some (.infinite negative)
  else if name == "nan" then some .notANumber
  else magnitude? negative unsigned

end Text
end Routebook
