import Routebook.Notes.Block
import Routebook.Proofs.Text.Pieces

namespace Routebook
namespace CommentBlock

/-!
# Lines of a comment

A comment is written in rows, and many authors put a star in front of each row.  `Strips` says
what is left of one row: the blanks at its ends do not count, nor does one star in front with the
blanks behind it.  A second star is text.  `HasLines` says what is left of a whole comment, row by
row and in their order, where rows with nothing left are passed over.

Both are relations between what is written and what is read, and say nothing about how a row is
found or cut.  The reader computes the one text, and the one list of lines, that they allow.
-/

/-! ## One row -/

/-- A row and what is left of it. -/
inductive Strips : List Char → List Char → Prop where
  | plain {before line behind : List Char} (blank : ∀ c ∈ before, Text.isBlank c = true)
      (blank' : ∀ c ∈ behind, Text.isBlank c = true) (tight : Text.Tight line)
      (starless : line.head? ≠ some '*') : Strips (before ++ (line ++ behind)) line
  | starred {before inner line behind : List Char} (blank : ∀ c ∈ before, Text.isBlank c = true)
      (apart : ∀ c ∈ inner, Text.isBlank c = true) (blank' : ∀ c ∈ behind, Text.isBlank c = true)
      (tight : Text.Tight line) : Strips (before ++ '*' :: (inner ++ (line ++ behind))) line

theorem cleanLine_of_trim_cons {row rest : List Char} (trimmed : Text.trim row = '*' :: rest) :
    cleanLine row = Text.trim rest := by
  have stripped : Text.stripStart? ['*'] ('*' :: rest) = some rest :=
    Text.stripStart?_eq_some_iff.mpr rfl
  rw [cleanLine, trimmed, stripped, Option.getD_some]

theorem cleanLine_of_starless {row : List Char} (starless : (Text.trim row).head? ≠ some '*') :
    cleanLine row = Text.trim row := by
  have unstripped : Text.stripStart? ['*'] (Text.trim row) = none :=
    Text.stripStart?_eq_none_iff.mpr fun begins =>
      starless (Text.startsWith_singleton_iff.mp (Text.startsWith_iff.mpr begins))
  rw [cleanLine, unstripped, Option.getD_none]
  exact Text.trimWhere_trimWhere Text.isBlank row

theorem cleanLine_eq_iff {row line : List Char} : cleanLine row = line ↔ Strips row line := by
  constructor
  · intro left
    rcases Text.trim_eq_iff.mp (Eq.refl (Text.trim row)) with
      ⟨before, behind, whole, blank, blank', tight⟩
    by_cases star : (Text.trim row).head? = some '*'
    · rcases List.head?_eq_some_iff.mp star with ⟨rest, trimmed⟩
      rw [cleanLine_of_trim_cons trimmed] at left
      rcases Text.trim_eq_iff.mp left with ⟨inner, behind', whole', apart, blank'', tight'⟩
      have blanks : ∀ c ∈ behind' ++ behind, Text.isBlank c = true :=
        List.forall_mem_append.mpr ⟨blank'', blank'⟩
      have shape : row = before ++ '*' :: (inner ++ (line ++ (behind' ++ behind))) := by
        rw [whole, trimmed, whole']
        simp
      rw [shape]
      exact .starred blank apart blanks tight'
    · rw [cleanLine_of_starless star] at left
      rw [left] at whole star tight
      rw [whole]
      exact .plain blank blank' tight star
  · intro strips
    cases strips with
    | plain blank blank' tight starless =>
      have trimmed := Text.trim_eq_iff.mpr ⟨_, _, rfl, blank, blank', tight⟩
      rw [cleanLine_of_starless (trimmed.symm ▸ starless), trimmed]
    | @starred before inner line behind blank apart blank' tight =>
      have trimmed : Text.trim (before ++ '*' :: (inner ++ (line ++ behind))) =
          '*' :: Text.trimEnd (inner ++ (line ++ behind)) := by
        rw [Text.trim, Text.trimWhere_append_left blank, Text.trimWhere_cons_of_not (by decide),
          Text.trimEndWhere_cons_of_not (by decide)]
        rfl
      rw [cleanLine_of_trim_cons trimmed, Text.trim_trimEnd]
      exact Text.trim_eq_iff.mpr ⟨_, _, rfl, apart, blank', tight⟩

/-! ## All rows -/

/-- Rows and what is left of them. -/
inductive Shows : List (List Char) → List (List Char) → Prop where
  | done : Shows [] []
  | blank {row : List Char} {rows lines : List (List Char)} (nothing : Strips row [])
      (rest : Shows rows lines) : Shows (row :: rows) lines
  | filled {row line : List Char} {rows lines : List (List Char)} (left : Strips row line)
      (nonempty : line ≠ []) (rest : Shows rows lines) : Shows (row :: rows) (line :: lines)

/-- The lines of a comment with a body, whose rows are ended by line feeds.  A carriage return in
front of a line feed is a blank of the row. -/
def HasLines (body : List Char) (lines : List (List Char)) : Prop :=
  ∃ rows, body = Text.joinWith ['\n'] rows ∧ (∀ row ∈ rows, '\n' ∉ row) ∧ Shows rows lines

theorem shows_iff {rows lines : List (List Char)} :
    Shows rows lines ↔ (rows.map cleanLine).filter (!·.isEmpty) = lines := by
  constructor
  · intro shows
    induction shows with
    | done => rfl
    | blank nothing rest inductionHypothesis =>
      rw [List.map_cons, cleanLine_eq_iff.mpr nothing, List.filter_cons_of_neg (by decide),
        inductionHypothesis]
    | filled left nonempty rest inductionHypothesis =>
      rw [List.map_cons, cleanLine_eq_iff.mpr left,
        List.filter_cons_of_pos (by simpa using nonempty), inductionHypothesis]
  · rintro rfl
    induction rows with
    | nil => exact .done
    | cons row rows inductionHypothesis =>
      have left : Strips row (cleanLine row) := cleanLine_eq_iff.mp rfl
      rw [List.map_cons]
      by_cases nothing : cleanLine row = []
      · rw [nothing] at left ⊢
        exact .blank left inductionHypothesis
      · rw [List.filter_cons_of_pos (by simpa using nothing)]
        exact .filled left nothing inductionHypothesis

/-- A carriage return at the end of a row is a blank of the row. -/
theorem cleanLine_dropReturn (row : List Char) :
    cleanLine (Text.dropReturn row) = cleanLine row := by
  rw [cleanLine, Text.trim_dropReturn, cleanLine]

/-- A comment has exactly the lines that are read. -/
theorem hasLines_iff {body : List Char} {lines : List (List Char)} :
    HasLines body lines ↔ cleanLines body = lines := by
  have pieces : cleanLines body =
      ((Text.piecesAt '\n' body).map cleanLine).filter (!·.isEmpty) :=
    Text.filter_map_lines rfl cleanLine_dropReturn body
  constructor
  · rintro ⟨rows, rfl, free, shows⟩
    by_cases none : rows = []
    · rw [none] at shows
      cases shows
      rw [none]
      rfl
    · rw [pieces, Text.piecesAt_joinWith none free]
      exact shows_iff.mp shows
  · rintro rfl
    exact ⟨Text.piecesAt '\n' body, (Text.joinWith_piecesAt '\n' body).symm,
      fun row member => Text.not_mem_of_mem_piecesAt member, shows_iff.mpr pieces.symm⟩

end CommentBlock
end Routebook
