import Routebook.Text.Class

namespace Routebook
namespace Text

/-!
# Change of case

The capital or the small form of one character may be several characters: the sharp s has
two capitals.  A change of case therefore yields a list for every character, and a text is
changed character by character.
-/

/-- The code point at the distance that the run of a character prescribes. -/
def shifted (runs : List CaseRun) (c : Char) : Char :=
  match runs.find? (·.contains c.toNat) with
  | some run => Char.ofNat ((c.toNat : Int) + run.shift).toNat
  | none => c

/-- The small form of a character.  Only the capital I with a dot above has two characters. -/
def lowerChar (c : Char) : List Char :=
  if c.toNat < 0x80 then
    [if 0x41 ≤ c.toNat && c.toNat ≤ 0x5A then Char.ofNat (c.toNat + 0x20) else c]
  else if c.toNat == 0x130 then ['i', Char.ofNat 0x307]
  else [shifted lowercaseShifts c]

def upperChar (c : Char) : List Char :=
  if c.toNat < 0x80 then
    [if 0x61 ≤ c.toNat && c.toNat ≤ 0x7A then Char.ofNat (c.toNat - 0x20) else c]
  else match uppercaseExpansions.find? (·.1 == c.toNat) with
    | some expansion => expansion.2.map Char.ofNat
    | none => [shifted uppercaseShifts c]

/-- A text in small letters.  Every capital sigma becomes the medial one, which suffices for
comparing a text with the names of ASCII. -/
def lower (text : List Char) : List Char :=
  text.flatMap lowerChar

def upper (text : List Char) : List Char :=
  text.flatMap upperChar

end Text
end Routebook
