import Routebook.Proofs.Text.Pieces
import Routebook.Source.InterfaceText

namespace Routebook

/-!
# Laws of logical lines

Code is cut behind opening braces, at semicolons and around closing braces, and what is cut off
is trimmed.  So blanks in front of a piece do not count, a semicolon behind a piece does not
count, and a row of pieces on one line gives the same logical lines as a line for each of them.
-/

/-- The logical lines of code. -/
def codeLines (text : List Char) : List (List Char) :=
  ((splitCode [] text).map Text.trim).filter (!·.isEmpty)

/-- The characters that end a logical line. -/
def codeMarks : List Char := ['{', ';', '}']

/-! ## Pieces -/

/-- What was read before goes to the first piece. -/
theorem exists_splitCode (text : List Char) :
    ∃ first others, ∀ current, splitCode current text = (current.reverse ++ first) :: others := by
  induction text with
  | nil => exact ⟨[], [], fun current => by rw [splitCode, List.append_nil]⟩
  | cons c rest inductionHypothesis =>
    rcases inductionHypothesis with ⟨first, others, cut⟩
    by_cases opens : c = '{'
    · exact ⟨['{'], splitCode [] rest, fun current => by simp [splitCode, opens]⟩
    · by_cases ends : c = ';'
      · exact ⟨[], splitCode [] rest, fun current => by simp [splitCode, ends]⟩
      · by_cases closes : c = '}'
        · exact ⟨[], ['}'] :: splitCode [] rest, fun current => by simp [splitCode, closes]⟩
        · exact ⟨c :: first, others, fun current => by
            simp [splitCode, opens, ends, closes, cut]⟩

theorem splitCode_append {front : List Char} (plain : ∀ c ∈ front, c ∉ codeMarks)
    (current rest : List Char) :
    splitCode current (front ++ rest) = splitCode (front.reverse ++ current) rest := by
  induction front generalizing current with
  | nil => rfl
  | cons c front inductionHypothesis =>
    have here := plain c List.mem_cons_self
    simp only [codeMarks, List.mem_cons, List.not_mem_nil, or_false, not_or] at here
    have tail := inductionHypothesis
      (fun other member => plain other (List.mem_cons_of_mem c member)) (c :: current)
    rw [List.reverse_cons, List.append_assoc, List.singleton_append, ← tail, List.cons_append,
      splitCode]
    simp [here]

/-! ## Lines -/

theorem codeLines_cons_of_isBlank {c : Char} (blank : Text.isBlank c = true)
    (text : List Char) : codeLines (c :: text) = codeLines text := by
  have plain : ∀ other ∈ [c], other ∉ codeMarks := by
    intro other member
    rw [List.mem_singleton.mp member]
    have solid : ∀ mark ∈ codeMarks, Text.isBlank mark = false :=
      List.forall_iff_forall_mem.mp (by decide)
    exact fun mark => Bool.false_ne_true ((solid c mark).symm.trans blank)
  rcases exists_splitCode text with ⟨first, others, cut⟩
  have whole : splitCode [] ([c] ++ text) = (c :: first) :: others :=
    (splitCode_append plain [] text).trans (cut [c])
  have bare : splitCode [] text = first :: others := cut []
  have trimmed : Text.trim (c :: first) = Text.trim first := Text.trimWhere_cons blank first
  rw [codeLines, ← List.singleton_append, whole, List.map_cons, trimmed, codeLines, bare,
    List.map_cons]

theorem codeLines_semicolon (text : List Char) : codeLines (';' :: text) = codeLines text :=
  rfl

/-- A text that is a logical line of its own. -/
inductive IsLogicalLine : List Char → Prop
  | plain {row : List Char} (filled : row ≠ []) (trimmed : Text.trim row = row)
      (plain : ∀ c ∈ row, c ∉ codeMarks) : IsLogicalLine row
  | opening {front : List Char} (trimmed : Text.trim (front ++ ['{']) = front ++ ['{'])
      (plain : ∀ c ∈ front, c ∉ codeMarks) : IsLogicalLine (front ++ ['{'])
  | closing : IsLogicalLine ['}']

namespace IsLogicalLine

theorem codeLines_opening {front : List Char}
    (trimmed : Text.trim (front ++ ['{']) = front ++ ['{'])
    (plain : ∀ c ∈ front, c ∉ codeMarks) (rest : List Char) :
    codeLines (front ++ ['{'] ++ rest) = (front ++ ['{']) :: codeLines rest := by
  have cut : splitCode [] (front ++ ['{'] ++ rest) = (front ++ ['{']) :: splitCode [] rest := by
    rw [List.append_assoc, splitCode_append plain]
    simp [splitCode]
  rw [codeLines, cut, List.map_cons, trimmed, List.filter_cons_of_pos (by simp)]
  rfl

theorem codeLines_closing (rest : List Char) : codeLines ('}' :: rest) = ['}'] :: codeLines rest :=
  rfl

/-- A logical line is cut off at the semicolon behind it. -/
theorem codeLines_append_semicolon {row : List Char} (line : IsLogicalLine row)
    (rest : List Char) : codeLines (row ++ ';' :: rest) = row :: codeLines rest := by
  cases line with
  | plain filled trimmed plain =>
    have cut : splitCode [] (row ++ ';' :: rest) = row :: splitCode [] rest := by
      rw [splitCode_append plain]
      simp [splitCode]
    rw [codeLines, cut, List.map_cons, trimmed, List.filter_cons_of_pos (by simpa using filled)]
    rfl
  | opening trimmed plain => exact codeLines_opening trimmed plain _
  | closing => rfl

/-- A line that opens an object ends there. -/
theorem codeLines_append_of_opens {row : List Char} (line : IsLogicalLine row)
    (opens : row.getLast? = some '{') (rest : List Char) :
    codeLines (row ++ rest) = row :: codeLines rest := by
  cases line with
  | plain filled trimmed plain =>
    exact absurd (by decide) (plain '{' (List.mem_of_getLast? opens))
  | opening trimmed plain => exact codeLines_opening trimmed plain rest
  | closing => exact absurd (Option.some.inj opens) (by decide)

theorem codeLines_eq {row : List Char} (line : IsLogicalLine row) : codeLines row = [row] := by
  cases line with
  | plain filled trimmed plain =>
    have cut : splitCode [] row = [row] := by
      have whole := splitCode_append plain [] []
      rwa [List.append_nil, List.append_nil, splitCode, List.reverse_reverse] at whole
    rw [codeLines, cut, List.map_singleton, trimmed,
      List.filter_cons_of_pos (by simpa using filled), List.filter_nil]
  | opening trimmed plain =>
    have whole := codeLines_opening trimmed plain []
    rwa [List.append_nil] at whole
  | closing => rfl

end IsLogicalLine

/-! ## Texts -/

/-- The logical lines of a text are those of its rows. -/
theorem logicalLines_eq (text : List Char) :
    logicalLines text = (Text.rows text).flatMap fun row =>
      if isComment row then [row] else codeLines row := by
  unfold logicalLines Text.rows
  induction Text.lines text with
  | nil => rfl
  | cons line others inductionHypothesis =>
    rw [List.flatMap_cons, inductionHypothesis, List.map_cons, logicalLinesOf]
    by_cases blank : Text.trim line = []
    · rw [List.filter_cons_of_neg (by simp [blank]), blank]
      rfl
    · rw [List.filter_cons_of_pos (by simpa using blank), List.flatMap_cons]
      rfl

end Routebook
