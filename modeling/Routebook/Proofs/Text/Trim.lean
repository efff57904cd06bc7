import Mathlib.Data.List.Induction
import Mathlib.Data.List.TakeWhile
import Routebook.Text.Cut

namespace Routebook
namespace Text

/-!
# Laws of trimmed texts

A text is trimmed by dropping the characters of a class at its start and then at its end.  The
laws here take one character at a time: a character of the class at an end does not count, and a
text without one at its ends stays as it is.
-/

section Classes

variable {p : Char → Bool} {c : Char} {text : List Char}

theorem trimEndWhere_concat (drops : p c = true) (text : List Char) :
    trimEndWhere p (text ++ [c]) = trimEndWhere p text := by
  simp [trimEndWhere, drops]

theorem trimEndWhere_concat_of_not (keeps : p c = false) (text : List Char) :
    trimEndWhere p (text ++ [c]) = text ++ [c] := by
  simp [trimEndWhere, keeps]

/-- Nothing in front of a character that is not of the class is dropped. -/
theorem trimEndWhere_append_cons (keeps : p c = false) (front text : List Char) :
    trimEndWhere p (front ++ c :: text) = front ++ c :: trimEndWhere p text := by
  rw [trimEndWhere, List.reverse_append, List.reverse_cons, List.append_assoc,
    List.dropWhile_append]
  split
  next none => simp [trimEndWhere, List.isEmpty_iff.mp none, keeps]
  next => simp [trimEndWhere]

theorem trimEndWhere_cons_of_not (keeps : p c = false) (text : List Char) :
    trimEndWhere p (c :: text) = c :: trimEndWhere p text :=
  trimEndWhere_append_cons keeps [] text

theorem trimEndWhere_cons_ne_nil (keeps : p c = false) (text : List Char) :
    trimEndWhere p (c :: text) ≠ [] := by
  rw [trimEndWhere_cons_of_not keeps]
  exact List.cons_ne_nil _ _

theorem trimWhere_cons (drops : p c = true) (text : List Char) :
    trimWhere p (c :: text) = trimWhere p text := by
  rw [trimWhere, trimStartWhere, List.dropWhile_cons_of_pos drops, trimWhere, trimStartWhere]

theorem trimWhere_cons_of_not (keeps : p c = false) (text : List Char) :
    trimWhere p (c :: text) = trimEndWhere p (c :: text) := by
  rw [trimWhere, trimStartWhere, List.dropWhile_cons_of_neg (by simp [keeps])]

theorem trimWhere_concat (drops : p c = true) (text : List Char) :
    trimWhere p (text ++ [c]) = trimWhere p text := by
  unfold trimWhere trimStartWhere
  rw [List.dropWhile_append]
  split
  next none =>
    rw [List.isEmpty_iff.mp none]
    simp [trimEndWhere, drops]
  next => exact trimEndWhere_concat drops _

theorem trimWhere_concat_of_not (keeps : p c = false) (text : List Char) :
    trimWhere p (text ++ [c]) = trimStartWhere p text ++ [c] := by
  have start : trimStartWhere p (text ++ [c]) = trimStartWhere p text ++ [c] := by
    unfold trimStartWhere
    rw [List.dropWhile_append]
    split
    next none => simp [List.isEmpty_iff.mp none, keeps]
    next => rfl
  rw [trimWhere, start, trimEndWhere_concat_of_not keeps]

theorem trimWhere_append {drops : List Char} (dropped : ∀ c ∈ drops, p c = true)
    (text : List Char) : trimWhere p (text ++ drops) = trimWhere p text := by
  induction drops using List.reverseRecOn with
  | nil => rw [List.append_nil]
  | append_singleton front last inductionHypothesis =>
    rw [← List.append_assoc, trimWhere_concat (dropped last (by simp)),
      inductionHypothesis fun c member => dropped c (List.mem_append_left _ member)]

theorem trimWhere_append_left {drops : List Char} (dropped : ∀ c ∈ drops, p c = true)
    (text : List Char) : trimWhere p (drops ++ text) = trimWhere p text := by
  rw [trimWhere, trimStartWhere, List.dropWhile_append_of_pos dropped]
  rfl

/-- What is dropped at the end of a text is of the class. -/
theorem exists_trimEndWhere (p : Char → Bool) (text : List Char) :
    ∃ drops, text = trimEndWhere p text ++ drops ∧ ∀ c ∈ drops, p c = true := by
  refine ⟨(text.reverse.takeWhile p).reverse, ?_, fun c member => ?_⟩
  · rw [trimEndWhere, ← List.reverse_append, List.takeWhile_append_dropWhile, List.reverse_reverse]
  · exact List.mem_takeWhile_imp (List.mem_reverse.mp member)

theorem trimEndWhere_isPrefix (p : Char → Bool) (text : List Char) :
    trimEndWhere p text <+: text := by
  rcases exists_trimEndWhere p text with ⟨drops, whole, -⟩
  exact ⟨drops, whole.symm⟩

theorem trimWhere_isInfix (p : Char → Bool) (text : List Char) : trimWhere p text <:+: text :=
  (trimEndWhere_isPrefix p _).isInfix.trans (List.dropWhile_suffix p).isInfix

theorem trimEndWhere_eq_self (last : ∀ c, text.getLast? = some c → p c = false) :
    trimEndWhere p text = text := by
  rcases List.eq_nil_or_concat text with rfl | ⟨front, final, rfl⟩
  · rfl
  · rw [List.concat_eq_append] at last ⊢
    exact trimEndWhere_concat_of_not (last final (by simp)) front

theorem not_of_getLast?_trimEndWhere (last : (trimEndWhere p text).getLast? = some c) :
    p c = false := by
  have stop := List.head?_dropWhile_not p text.reverse
  rw [trimEndWhere, List.getLast?_reverse] at last
  rw [last] at stop
  simpa using stop

/-- A text without a character of the class at its ends stays as it is. -/
theorem trimWhere_eq_self (head : ∀ c, text.head? = some c → p c = false)
    (last : ∀ c, text.getLast? = some c → p c = false) : trimWhere p text = text := by
  rcases List.eq_nil_or_concat text with rfl | ⟨before, final, rfl⟩
  · rfl
  · rw [List.concat_eq_append] at head last ⊢
    have keeps : p final = false := last final (by simp)
    have whole : trimStartWhere p (before ++ [final]) = before ++ [final] := by
      cases before with
      | nil => simp [trimStartWhere, keeps]
      | cons c before => simp [trimStartWhere, head c rfl]
    rw [trimWhere, whole, trimEndWhere_concat_of_not keeps]

theorem trimWhere_trimWhere (p : Char → Bool) (text : List Char) :
    trimWhere p (trimWhere p text) = trimWhere p text := by
  apply trimWhere_eq_self
  · intro c first
    rcases exists_trimEndWhere p (trimStartWhere p text) with ⟨drops, whole, -⟩
    have stop := List.head?_dropWhile_not p text
    rcases List.head?_eq_some_iff.mp first with ⟨rest, shape⟩
    rw [trimWhere] at shape
    rw [shape, trimStartWhere] at whole
    rw [whole] at stop
    simpa using stop
  · exact fun c last => not_of_getLast?_trimEndWhere last

theorem length_trimWhere_le (p : Char → Bool) (text : List Char) :
    (trimWhere p text).length ≤ text.length := by
  have front : (trimStartWhere p text).length ≤ text.length := (List.dropWhile_sublist p).length_le
  have back : (trimWhere p text).reverse.length ≤ (trimStartWhere p text).reverse.length := by
    rw [trimWhere, trimEndWhere, List.reverse_reverse]
    exact (List.dropWhile_sublist p).length_le
  rw [List.length_reverse, List.length_reverse] at back
  exact Nat.le_trans back front

/-- Only a text without a character of the class at its ends stays as it is. -/
theorem not_of_trimWhere_eq_self (same : trimWhere p text = text) :
    (∀ c, text.head? = some c → p c = false) ∧ ∀ c, text.getLast? = some c → p c = false := by
  constructor
  · intro c first
    rcases List.head?_eq_some_iff.mp first with ⟨rest, rfl⟩
    by_contra drops
    have shorter := length_trimWhere_le p rest
    rw [← trimWhere_cons (Bool.not_eq_false _ ▸ drops), same, List.length_cons] at shorter
    omega
  · intro c last
    rcases List.getLast?_eq_some_iff.mp last with ⟨before, rfl⟩
    by_contra drops
    have shorter := length_trimWhere_le p before
    rw [← trimWhere_concat (Bool.not_eq_false _ ▸ drops), same, List.length_append] at shorter
    exact absurd shorter (by simp)

end Classes

theorem trim_eq_self {text : List Char} (head : ∀ c, text.head? = some c → isBlank c = false)
    (last : ∀ c, text.getLast? = some c → isBlank c = false) : trim text = text :=
  trimWhere_eq_self head last

/-- A text without blanks stays as it is. -/
theorem trim_of_solid {text : List Char} (solid : ∀ c ∈ text, isBlank c = false) :
    trim text = text :=
  trim_eq_self (fun c first => solid c (List.mem_of_mem_head? first))
    fun c last => solid c (List.mem_of_getLast? last)

/-- A text that begins and ends without a blank. -/
def Tight (text : List Char) : Prop :=
  (∀ c, text.head? = some c → isBlank c = false) ∧ ∀ c, text.getLast? = some c → isBlank c = false

/-- Trimming drops blanks at both ends and keeps what is between them. -/
theorem trim_eq_iff {text line : List Char} :
    trim text = line ↔ ∃ before behind, text = before ++ (line ++ behind) ∧
      (∀ c ∈ before, isBlank c = true) ∧ (∀ c ∈ behind, isBlank c = true) ∧ Tight line := by
  constructor
  · rintro rfl
    rcases exists_trimEndWhere isBlank (trimStart text) with ⟨behind, whole, blank⟩
    refine ⟨text.takeWhile isBlank, behind, ?_, fun c member => List.mem_takeWhile_imp member,
      blank, not_of_trimWhere_eq_self (trimWhere_trimWhere isBlank text)⟩
    exact List.takeWhile_append_dropWhile.symm.trans (congrArg (_ ++ ·) whole)
  · rintro ⟨before, behind, rfl, blank, blank', tight⟩
    rw [trim, trimWhere_append_left blank, trimWhere_append blank',
      trimWhere_eq_self tight.1 tight.2]

theorem trim_trimEnd (text : List Char) : trim (trimEnd text) = trim text := by
  rcases exists_trimEndWhere isBlank text with ⟨blanks, whole, blank⟩
  conv_rhs => rw [trim, whole, trimWhere_append blank]
  rfl

end Text
end Routebook
