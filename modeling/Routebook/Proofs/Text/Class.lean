import Mathlib.Data.List.Basic
import Routebook.Text.Class

namespace Routebook
namespace Text

/-!
# Classes of characters that exclude each other

A blank ends every word.  There are few blanks, so this is checked for each of them against the
tables of the other classes.
-/

/-- The code points of the blanks. -/
def blankCodes : List Nat :=
  [0x09, 0x0A, 0x0B, 0x0C, 0x0D, 0x20, 0x85, 0xA0, 0x1680, 0x2000, 0x2001, 0x2002, 0x2003, 0x2004,
   0x2005, 0x2006, 0x2007, 0x2008, 0x2009, 0x200A, 0x2028, 0x2029, 0x202F, 0x205F, 0x3000]

theorem toNat_mem_blankCodes {c : Char} (blank : isBlank c = true) : c.toNat ∈ blankCodes := by
  unfold isBlank at blank
  dsimp only at blank
  simp only [blankCodes, List.mem_cons, List.not_mem_nil, or_false]
  split at blank
  · simp only [Bool.or_eq_true, Bool.and_eq_true, beq_iff_eq, decide_eq_true_eq] at blank
    omega
  · simp only [Bool.or_eq_true, Bool.and_eq_true, beq_iff_eq, decide_eq_true_eq] at blank
    omega

theorem isWord_of_isBlank {c : Char} (blank : isBlank c = true) : isWord c = false := by
  have all : ∀ code ∈ blankCodes, isWord (Char.ofNat code) = false := by decide +kernel
  have here := all c.toNat (toNat_mem_blankCodes blank)
  rwa [Char.ofNat_toNat] at here

theorem isNameChar_of_isBlank {c : Char} (blank : isBlank c = true) : isNameChar c = false := by
  have all : ∀ code ∈ blankCodes, isNameChar (Char.ofNat code) = false := by decide +kernel
  have here := all c.toNat (toNat_mem_blankCodes blank)
  rwa [Char.ofNat_toNat] at here

end Text
end Routebook
