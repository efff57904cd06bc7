import Mathlib.Data.String.Basic

namespace Routebook
namespace Text

/-!
# The order of bytes

Names of files are compared here by their characters, and by a file system by their bytes.  Both
orders are the same: the bytes of a character begin with its highest digits, and a longer form
begins with a greater byte than every shorter one.
-/

/-- The bytes that a text is stored as. -/
def bytes (text : String) : List UInt8 :=
  text.toUTF8.data.toList

theorem bytes_eq_flatMap (text : String) :
    bytes text = text.toList.flatMap String.utf8EncodeChar := by
  rw [bytes, String.toUTF8, ← String.utf8Encode_toList, List.utf8Encode,
    List.toList_data_toByteArray]

theorem ofNat_lt_ofNat {first second : Nat} (small : first < 256) (small' : second < 256) :
    UInt8.ofNat first < UInt8.ofNat second ↔ first < second :=
  UInt8.ofNat_lt_iff_lt small small'

theorem ofNat_eq_ofNat {first second : Nat} (small : first < 256) (small' : second < 256) :
    UInt8.ofNat first = UInt8.ofNat second ↔ first = second := by
  rw [← UInt8.toNat_inj, UInt8.toNat_ofNat_of_lt' small, UInt8.toNat_ofNat_of_lt' small']

/-- The bytes of a character decide before anything that follows them. -/
theorem utf8EncodeChar_append_lt {c d : Char} (less : c < d) (rest rest' : List UInt8) :
    String.utf8EncodeChar c ++ rest < String.utf8EncodeChar d ++ rest' := by
  have order : c.val.toNat < d.val.toNat := less
  have valid : d.val.toNat < 0x110000 := by
    have inRange := d.valid
    simp only [UInt32.isValidChar, Nat.isValidChar] at inRange
    omega
  generalize first : c.val.toNat = m at order
  generalize second : d.val.toNat = n at order valid
  -- The four digits of the longest form, each cut from what is left without the lower ones.
  have digits : m / 64 / 64 = m / 4096 ∧ m / 4096 / 64 = m / 262144 :=
    ⟨Nat.div_div_eq_div_mul m 64 64, Nat.div_div_eq_div_mul m 4096 64⟩
  have digits' : n / 64 / 64 = n / 4096 ∧ n / 4096 / 64 = n / 262144 :=
    ⟨Nat.div_div_eq_div_mul n 64 64, Nat.div_div_eq_div_mul n 4096 64⟩
  have highest : m / 262144 % 8 = m / 262144 ∧ n / 262144 % 8 = n / 262144 :=
    ⟨Nat.mod_eq_of_lt (by omega), Nat.mod_eq_of_lt (by omega)⟩
  unfold String.utf8EncodeChar
  simp only [first, second]
  split_ifs
  all_goals
    simp (disch := omega) only [List.cons_append, List.nil_append, List.cons_lt_cons_iff,
      ofNat_lt_ofNat, ofNat_eq_ofNat]
    omega

/-- A text that precedes another one by its characters does so by its bytes. -/
theorem bytes_lt_bytes {first second : String} (less : first < second) :
    bytes first < bytes second := by
  have chars := String.lt_iff_toList_lt.mp less
  rw [bytes_eq_flatMap, bytes_eq_flatMap]
  generalize first.toList = text at chars
  generalize second.toList = text' at chars
  induction chars with
  | @nil c rest =>
    have filled : 0 < (String.utf8EncodeChar c).length := by
      rw [String.length_utf8EncodeChar]
      exact c.utf8Size_pos
    rw [List.flatMap_nil, List.flatMap_cons]
    rcases List.exists_cons_of_length_pos filled with ⟨first, others, shape⟩
    rw [shape]
    exact .nil
  | rel less =>
    rw [List.flatMap_cons, List.flatMap_cons]
    exact utf8EncodeChar_append_lt less _ _
  | cons _ inductionHypothesis =>
    rw [List.flatMap_cons, List.flatMap_cons]
    exact List.append_left_lt inductionHypothesis

end Text
end Routebook
