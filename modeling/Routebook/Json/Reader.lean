import Routebook.Text.Class
import Routebook.Tree

namespace Routebook
namespace Json

/-!
# Reading JSON

The reader accepts exactly the texts of RFC 8259 and answers their trees.  A tree has a value
if its arrays and objects are nested at most `maxNesting` deep, its numbers are within the
range of binary64 and its texts hold no surrogate that stands alone; the parts that break
these rules are unreadable.  What is wrong with any other text is of no interest to its
callers, so they get no tree.

Every function takes the text that is left and answers its result with the text behind it.
The budget is lowered with every call.  Of two calls one within the other the outer one takes a
character first, so that a budget above twice the length of the text never runs out.
-/

/-- Arrays and objects may be nested this deep. -/
def maxNesting : Nat := 127

def isSpace (c : Char) : Bool :=
  c == ' ' || c == '\t' || c == '\n' || c == '\r'

def skipSpaces (text : List Char) : List Char :=
  text.dropWhile isSpace

/-! ## Strings -/

def hexValue? (c : Char) : Option Nat :=
  let code := c.toNat
  if 0x30 ≤ code && code ≤ 0x39 then some (code - 0x30)
  else if 0x41 ≤ code && code ≤ 0x46 then some (code - 0x37)
  else if 0x61 ≤ code && code ≤ 0x66 then some (code - 0x57)
  else none

def hexQuad? : List Char → Option (Nat × List Char)
  | a :: b :: c :: d :: rest => do
    let a ← hexValue? a
    let b ← hexValue? b
    let c ← hexValue? c
    let d ← hexValue? d
    some (a * 4096 + b * 256 + c * 16 + d, rest)
  | _ => none

/-- The character of a unit escape.  A leading surrogate must be followed by the escape of a
trailing one, and neither may stand alone. -/
def readUnit? (text : List Char) : Option (Char × List Char) := do
  let (unit, rest) ← hexQuad? text
  if 0xDC00 ≤ unit && unit ≤ 0xDFFF then none
  else if 0xD800 ≤ unit && unit ≤ 0xDBFF then
    match rest with
    | '\\' :: 'u' :: rest =>
      let (trail, rest) ← hexQuad? rest
      if 0xDC00 ≤ trail && trail ≤ 0xDFFF then
        some (Char.ofNat (0x10000 + (unit - 0xD800) * 0x400 + (trail - 0xDC00)), rest)
      else none
    | _ => none
  else some (Char.ofNat unit, rest)

/-- The character that a one-letter escape stands for. -/
def escaped? : Char → Option Char
  | '"' => some '"'
  | '\\' => some '\\'
  | '/' => some '/'
  | 'b' => some '\x08'
  | 'f' => some '\x0c'
  | 'n' => some '\n'
  | 'r' => some '\r'
  | 't' => some '\t'
  | _ => none

/-- The characters up to the closing quote, none if a surrogate stands alone. -/
def readText (budget : Nat) (text : List Char) : Option (Option (List Char) × List Char) :=
  match budget with
  | 0 => none
  | budget + 1 =>
    match text with
    | [] => none
    | '"' :: rest => some (some [], rest)
    | '\\' :: 'u' :: escape =>
      match readUnit? escape with
      | some (c, rest) => do
        let (others, rest) ← readText budget rest
        some (others.map (c :: ·), rest)
      | none => do
        let (_, rest) ← hexQuad? escape
        let (_, rest) ← readText budget rest
        some (none, rest)
    | '\\' :: letter :: rest => do
      let c ← escaped? letter
      let (others, rest) ← readText budget rest
      some (others.map (c :: ·), rest)
    | c :: rest =>
      if c.toNat < 0x20 || c == '\\' then none
      else do
        let (others, rest) ← readText budget rest
        some (others.map (c :: ·), rest)

/-! ## Numbers

A significand is gathered in 64 bits.  Digits of the integer part that no longer fit count
as a power of ten, digits of the fraction that no longer fit are dropped.  The significand
is rounded once, and once more when the power of ten is applied, so that a number with many
digits may differ from the nearest one in its last place. -/

def maxSignificand : Nat := 0xffffffffffffffff

/-- Digits appended to a significand as long as it fits, and the digits left. -/
def gather (significand : Nat) : List Char → Nat × List Char
  | [] => (significand, [])
  | c :: rest =>
    let next := significand * 10 + Text.digitValue c
    if maxSignificand < next then (significand, c :: rest) else gather next rest

structure Numeral where
  negative : Bool
  whole : List Char
  /-- The digits behind the point, if there is a point. -/
  fraction : Option (List Char)
  exponent : Option (Bool × List Char)

/-- The integer part: a zero alone, or digits that do not begin with a zero. -/
def readWhole (text : List Char) : Option (List Char × List Char) :=
  let digits := text.takeWhile Text.isDigit
  let rest := text.dropWhile Text.isDigit
  match digits with
  | [] => none
  | ['0'] => some (digits, rest)
  | '0' :: _ => none
  | _ => some (digits, rest)

/-- At least one digit. -/
def readDigits (text : List Char) : Option (List Char × List Char) :=
  let digits := text.takeWhile Text.isDigit
  if digits.isEmpty then none else some (digits, text.dropWhile Text.isDigit)

def readFraction (text : List Char) : Option (Option (List Char) × List Char) :=
  match text with
  | '.' :: rest => (readDigits rest).map fun (digits, rest) => (some digits, rest)
  | _ => some (none, text)

/-- The exponent of a number, with true for a negative one. -/
def readExponent (text : List Char) : Option (Option (Bool × List Char) × List Char) :=
  let signed (text : List Char) : Option (Option (Bool × List Char) × List Char) :=
    match text with
    | '-' :: rest => (readDigits rest).map fun (digits, rest) => (some (true, digits), rest)
    | '+' :: rest => (readDigits rest).map fun (digits, rest) => (some (false, digits), rest)
    | _ => (readDigits text).map fun (digits, rest) => (some (false, digits), rest)
  match text with
  | 'e' :: rest => signed rest
  | 'E' :: rest => signed rest
  | _ => some (none, text)

def readNumeral (text : List Char) : Option (Numeral × List Char) := do
  let negative := text.head? == some '-'
  let (whole, rest) ← readWhole (if negative then text.drop 1 else text)
  let (fraction, rest) ← readFraction rest
  let (exponent, rest) ← readExponent rest
  some (⟨negative, whole, fraction, exponent⟩, rest)

/-- The largest decimal exponent that a power of the format reaches. -/
def largestPower : Nat := 308

/-- Apply a power of ten in one rounded step, after dividing by the largest power as long as
the exponent is below its range.  No value is a number beyond the range. -/
def applyPower (budget : Nat) (x : Binary64) (exponent : Int) : Option Binary64 :=
  match budget with
  | 0 => some (.zero x.negative)
  | budget + 1 =>
    if exponent.natAbs ≤ largestPower then do
      let power ← Binary64.ofDecimal? false 1 exponent.natAbs
      if 0 ≤ exponent then x.times? power else x.over? power
    else if x.significand = 0 then some x
    else if 0 ≤ exponent then none
    else do
      let power ← Binary64.ofDecimal? false 1 largestPower
      let smaller ← x.over? power
      applyPower budget smaller (exponent + largestPower)

/-- The number with a significand and a decimal exponent.  Three divisions by the largest
power take every significand of 64 bits to zero. -/
def ofParts (negative : Bool) (significand : Nat) (exponent : Int) : Option Number := do
  let start ← Binary64.ofNat? negative significand
  (applyPower 4 start exponent).map .real

/-- An integer without fraction and exponent stays an integer if 64 bits hold it.  Minus zero
is no integer. -/
def ofWhole (negative : Bool) (significand : Nat) : Option Number :=
  let value : Int := if negative then -(significand : Int) else significand
  if inRange : (-0x8000000000000000 ≤ value ∧ value < 0x10000000000000000) ∧
      ¬(negative = true ∧ significand = 0) then
    some (.integer value inRange.1)
  else ofParts negative significand 0

def digitsValue (digits : List Char) : Nat :=
  digits.foldl (fun value c => value * 10 + Text.digitValue c) 0

def Numeral.number (numeral : Numeral) : Option Number :=
  let (significand, unread) := gather 0 numeral.whole
  match unread, numeral.fraction, numeral.exponent with
  | [], none, none => ofWhole numeral.negative significand
  | _, _, _ =>
    let (significand, decimals) :=
      match numeral.fraction with
      | none => (significand, 0)
      | some fraction =>
        let (full, dropped) := gather significand fraction
        (full, fraction.length - dropped.length)
    let shift : Int := (unread.length : Int) - decimals
    match numeral.exponent with
    | none => ofParts numeral.negative significand shift
    | some (downwards, digits) =>
      let amount := digitsValue digits
      if 0x80000000 ≤ amount then
        if significand ≠ 0 ∧ ¬downwards then none
        else some (.real (.zero numeral.negative))
      else
        ofParts numeral.negative significand
          (if downwards then shift - amount else shift + amount)

/-! ## Values -/

/-- An array or an object, unless it is nested too deeply. -/
def within (nesting : Nat) (tree : Tree) : Tree :=
  if nesting = 0 then .unreadable else tree

/-- An object, unless one of its keys is no text. -/
def objectOf (fields : List (Option (List Char) × Tree)) : Tree :=
  match fields.mapM fun field => field.1.map fun key => (String.ofList key, field.2) with
  | some entries => .fields true entries
  | none => .unreadable

mutual

/-- A value at the head of the text, which may nest further arrays and objects as deep as
`nesting` says. -/
def readValue (budget nesting : Nat) (text : List Char) : Option (Tree × List Char) :=
  match budget with
  | 0 => none
  | budget + 1 =>
    match skipSpaces text with
    | 'n' :: 'u' :: 'l' :: 'l' :: rest => some (.null, rest)
    | 't' :: 'r' :: 'u' :: 'e' :: rest => some (.bool true, rest)
    | 'f' :: 'a' :: 'l' :: 's' :: 'e' :: rest => some (.bool false, rest)
    | '"' :: rest => do
      let (characters, rest) ← readText budget rest
      some (characters.elim .unreadable fun characters => .text (String.ofList characters), rest)
    | '[' :: rest =>
      match skipSpaces rest with
      | ']' :: rest => some (within nesting (.list true []), rest)
      | rest => do
        let (items, rest) ← readItems budget (nesting - 1) rest
        some (within nesting (.list true items), rest)
    | '{' :: rest =>
      match skipSpaces rest with
      | '}' :: rest => some (within nesting (.fields true []), rest)
      | rest => do
        let (fields, rest) ← readFields budget (nesting - 1) rest
        some (within nesting (objectOf fields), rest)
    | rest => do
      let (numeral, rest) ← readNumeral rest
      some (numeral.number.elim .unreadable .number, rest)

/-- The items of an array up to its closing bracket; there is at least one. -/
def readItems (budget nesting : Nat) (text : List Char) : Option (List Tree × List Char) :=
  match budget with
  | 0 => none
  | budget + 1 => do
    let (item, rest) ← readValue budget nesting text
    match skipSpaces rest with
    | ']' :: rest => some ([item], rest)
    | ',' :: rest =>
      let (items, rest) ← readItems budget nesting rest
      some (item :: items, rest)
    | _ => none

/-- The fields of an object up to its closing brace, as they are written; there is at least
one. -/
def readFields (budget nesting : Nat) (text : List Char) :
    Option (List (Option (List Char) × Tree) × List Char) :=
  match budget with
  | 0 => none
  | budget + 1 =>
    match skipSpaces text with
    | '"' :: rest => do
      let (key, rest) ← readText budget rest
      match skipSpaces rest with
      | ':' :: rest =>
        let (value, rest) ← readValue budget nesting rest
        match skipSpaces rest with
        | '}' :: rest => some ([(key, value)], rest)
        | ',' :: rest =>
          let (fields, rest) ← readFields budget nesting rest
          some ((key, value) :: fields, rest)
        | _ => none
      | _ => none
    | _ => none

end

/-- The tree of a whole text, repeated keys included. -/
def readTree? (text : List Char) : Option Tree :=
  match readValue (2 * text.length + 2) maxNesting text with
  | some (tree, rest) => if (skipSpaces rest).isEmpty then some tree else none
  | none => none

/-- The value of a whole text.  A repeated key has its first place and its last value. -/
def read? (text : List Char) : Option Json :=
  (readTree? text).bind Tree.value?

end Json
end Routebook
