import Routebook.Text.Numeral
import Routebook.Tree

namespace Routebook
namespace Yaml

/-!
# Plain scalars

A scalar without quotes stands for a missing value, a truth value, a number or a text, by the
rules of the core schema of YAML 1.2.  The reader asks what a plain scalar is; the writer
asks the same to find out which texts need quotes.
-/

def isNullWord (text : List Char) : Bool :=
  ["null", "Null", "NULL", "~"].contains (String.ofList text)

def flag? (text : List Char) : Option Bool :=
  match String.ofList text with
  | "true" | "True" | "TRUE" => some true
  | "false" | "False" | "FALSE" => some false
  | _ => none

/-- The value of a digit in bases up to sixteen. -/
def digitOf? (c : Char) : Option Nat :=
  let code := c.toNat
  if 0x30 ≤ code && code ≤ 0x39 then some (code - 0x30)
  else if 0x41 ≤ code && code ≤ 0x46 then some (code - 0x37)
  else if 0x61 ≤ code && code ≤ 0x66 then some (code - 0x57)
  else none

def naturalIn? (base : Nat) (digits : List Char) : Option Nat :=
  if digits.isEmpty then none
  else (digits.mapM fun c => (digitOf? c).filter (· < base)).map (Text.naturalOf base)

/-- The base that a number announces at its start, and what follows. -/
def announcedBase? : List Char → Option (Nat × List Char)
  | '0' :: 'x' :: rest => some (16, rest)
  | '0' :: 'o' :: rest => some (8, rest)
  | '0' :: 'b' :: rest => some (2, rest)
  | _ => none

def announced? (text : List Char) : Option Nat :=
  (announcedBase? text).bind fun (base, digits) => naturalIn? base digits

/-- A zero with further digits, signed or not, is a text. -/
def isZeroPadded (text : List Char) : Bool :=
  let unsigned := (Text.takeSign text).2
  1 < unsigned.length && unsigned.head? == some '0' && unsigned.all Text.isDigit

/-- The magnitude of an integer with its sign, true for a minus. -/
def integer? (text : List Char) : Option (Bool × Nat) :=
  let (negative, unsigned) := Text.takeSign text
  match announced? unsigned with
  | some magnitude => some (negative, magnitude)
  | none =>
    if isZeroPadded text then none
    else (naturalIn? 10 unsigned).map fun magnitude => (negative, magnitude)

/-- An integer of 64 bits, a minus sign excluded. -/
def natural? (text : List Char) : Option Nat :=
  if text.head? == some '-' then none
  else (integer? text).bind fun number =>
    if number.2 < 0x10000000000000000 then some number.2 else none

/-- A real number.  Only the finite ones are read in the forms of `Text.real?`. -/
def real? (text : List Char) : Option Text.ExtendedReal :=
  let unplussed := (Text.stripStart? ['+'] text).getD text
  let doubleSign := unplussed.length < text.length &&
    (unplussed.head? == some '+' || unplussed.head? == some '-')
  if doubleSign then none
  else if [".inf", ".Inf", ".INF"].contains (String.ofList unplussed) then some (.infinite false)
  else if ["-.inf", "-.Inf", "-.INF"].contains (String.ofList text) then some (.infinite true)
  else if [".nan", ".NaN", ".NAN"].contains (String.ofList text) then some .notANumber
  else match Text.real? unplussed with
    | some (.finite value) => some (.finite value)
    | _ => none

/-- The value of a real number; infinite ones have the value null. -/
def realValue? (text : List Char) : Option Json :=
  (real? text).map fun
    | .finite value => .number (.real value)
    | _ => .null

/-- The value of an integer of at most 128 bits.  One beyond 64 bits has no value, which the
inner result says. -/
def integerValue? (text : List Char) : Option (Option Json) :=
  match integer? text with
  | some (false, magnitude) =>
    if magnitude < 0x100000000000000000000000000000000 then some (Json.ofInt? magnitude)
    else none
  | some (true, magnitude) =>
    if magnitude ≤ 0x8000000000000000 then some (Json.ofInt? (-(magnitude : Int)))
    else if magnitude ≤ 0x80000000000000000000000000000000 then some none
    else none
  | none => none

/-- The value of a plain scalar: null, a truth value, an integer, another number, or a text.
An integer beyond 64 bits but within 128 has none. -/
def plainValue? (text : List Char) : Option Json :=
  if text.isEmpty || isNullWord text then some .null
  else match flag? text with
    | some value => some (.bool value)
    | none =>
      match integerValue? text with
      | some value => value
      | none =>
        let number := if isZeroPadded text then none else realValue? text
        some (number.getD (.text (String.ofList text)))

end Yaml
end Routebook
