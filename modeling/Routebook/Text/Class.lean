import Routebook.Text.Tables

namespace Routebook
namespace Text

/-!
# Classes of characters

The readers of this library decide by the class of a character where a word ends and which
blanks may be dropped.  Sources and annotations are written in any script, so the classes
are those of the Unicode character database and not those of ASCII.  Each predicate decides
ASCII first by comparing code points and reads a table only for the rest.
-/

/-- A blank is a character with the property White_Space.  The no-break space is one, the
zero-width space is not. -/
def isBlank (c : Char) : Bool :=
  let code := c.toNat
  if code < 0x80 then code == 0x20 || (0x09 ≤ code && code ≤ 0x0D)
  else code == 0x85 || code == 0xA0 || code == 0x1680 || (0x2000 ≤ code && code ≤ 0x200A) ||
    code == 0x2028 || code == 0x2029 || code == 0x202F || code == 0x205F || code == 0x3000

/-- The decimal digits of ASCII, the only ones that numbers are written with. -/
def isDigit (c : Char) : Bool :=
  0x30 ≤ c.toNat && c.toNat ≤ 0x39

def digitValue (c : Char) : Nat :=
  c.toNat - 0x30

def isAsciiAlphanumeric (c : Char) : Bool :=
  isDigit c || (0x41 ≤ c.toNat && c.toNat ≤ 0x5A) || (0x61 ≤ c.toNat && c.toNat ≤ 0x7A)

/-- A letter or a number of any script. -/
def isAlphanumeric (c : Char) : Bool :=
  if c.toNat < 0x80 then isAsciiAlphanumeric c
  else alphabeticRuns.contains c.toNat || numberRuns.contains c.toNat

/-- A character of a word: a letter, a mark, a decimal digit, or connecting punctuation such
as the underscore.  Numbers that are not decimal digits, such as a fraction, are no word
characters although they are alphanumeric.  Words are those of version 16 of the standard,
the other classes are those of version 17. -/
def isWord (c : Char) : Bool :=
  if c.toNat < 0x80 then isAsciiAlphanumeric c || c == '_'
  else (alphabeticRuns.contains c.toNat || wordRuns.contains c.toNat) &&
    !newestWordRuns.contains c.toNat

/-- A letter or a number of any script, or the underscore: what a name in a source is made
of. -/
def isNameChar (c : Char) : Bool :=
  isAlphanumeric c || c == '_'

def isUppercase (c : Char) : Bool :=
  if c.toNat < 0x80 then 0x41 ≤ c.toNat && c.toNat ≤ 0x5A
  else uppercaseRuns.any (·.contains c.toNat)

def isLowercase (c : Char) : Bool :=
  if c.toNat < 0x80 then 0x61 ≤ c.toNat && c.toNat ≤ 0x7A
  else lowercaseRuns.any (·.contains c.toNat)

end Text
end Routebook
