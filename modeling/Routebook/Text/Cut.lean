import Routebook.Text.Class

namespace Routebook
namespace Text

/-!
# Cutting texts

Texts are read as lists of characters.  The operations here cut a text at a character or at
a needle, once or everywhere, and drop blanks at its ends.  None of them looks inside what
it keeps, and each recurses on the text alone.
-/

/-! ## Ends -/

/-- The text without the leading characters of a class. -/
def trimStartWhere (p : Char → Bool) (text : List Char) : List Char :=
  text.dropWhile p

def trimEndWhere (p : Char → Bool) (text : List Char) : List Char :=
  (text.reverse.dropWhile p).reverse

def trimWhere (p : Char → Bool) (text : List Char) : List Char :=
  trimEndWhere p (trimStartWhere p text)

def trimStart (text : List Char) : List Char :=
  trimStartWhere isBlank text

def trimEnd (text : List Char) : List Char :=
  trimEndWhere isBlank text

def trim (text : List Char) : List Char :=
  trimWhere isBlank text

/-- What follows the head, if the text begins with it. -/
def stripStart? : List Char → List Char → Option (List Char)
  | [], text => some text
  | _ :: _, [] => none
  | first :: head, c :: text => if first = c then stripStart? head text else none

/-- Stripping a head succeeds exactly on the texts that begin with it. -/
theorem stripStart?_eq_some_iff {head text rest : List Char} :
    stripStart? head text = some rest ↔ text = head ++ rest := by
  induction head generalizing text with
  | nil => simp [stripStart?]
  | cons first others inductionHypothesis =>
    cases text with
    | nil => simp [stripStart?]
    | cons c text =>
      by_cases same : first = c
      · subst same
        simpa [stripStart?] using inductionHypothesis
      · simp [stripStart?, same, Ne.symm same]

def stripEnd? (tail text : List Char) : Option (List Char) :=
  (stripStart? tail.reverse text.reverse).map List.reverse

theorem stripEnd?_eq_some_iff {tail text rest : List Char} :
    stripEnd? tail text = some rest ↔ text = rest ++ tail := by
  constructor
  · intro stripped
    obtain ⟨turned, found, rfl⟩ := Option.map_eq_some_iff.mp stripped
    have whole := congrArg List.reverse (stripStart?_eq_some_iff.mp found)
    simpa using whole
  · intro whole
    refine Option.map_eq_some_iff.mpr ⟨rest.reverse, ?_, List.reverse_reverse rest⟩
    exact stripStart?_eq_some_iff.mpr (by simp [whole])

def startsWith (head text : List Char) : Bool :=
  (stripStart? head text).isSome

def endsWith (tail text : List Char) : Bool :=
  (stripEnd? tail text).isSome

/-- The text without the head, repeated any number of times.  An empty head is never
dropped. -/
def dropRepeated (head text : List Char) : List Char :=
  match head with
  | [] => text
  | first :: others =>
    match h : stripStart? (first :: others) text with
    | some rest =>
      have : rest.length < text.length := by
        have parted := congrArg List.length (stripStart?_eq_some_iff.mp h)
        simp only [List.length_append, List.length_cons] at parted
        omega
      dropRepeated (first :: others) rest
    | none => text
termination_by text.length

/-! ## One cut -/

/-- The parts before and after the first occurrence of a needle. -/
def cut? (needle : List Char) : List Char → Option (List Char × List Char)
  | [] => if needle.isEmpty then some ([], []) else none
  | c :: rest =>
    match stripStart? needle (c :: rest) with
    | some after => some ([], after)
    | none => (cut? needle rest).map fun parts => (c :: parts.1, parts.2)

/-- A cut loses nothing: the parts and the needle make up the text. -/
theorem eq_append_of_cut? {needle text before after : List Char}
    (found : cut? needle text = some (before, after)) : text = before ++ needle ++ after := by
  induction text generalizing before with
  | nil =>
    cases needle with
    | nil => simp_all [cut?]
    | cons c needle => simp [cut?] at found
  | cons c rest inductionHypothesis =>
    rw [cut?] at found
    split at found
    next stripped =>
      obtain ⟨rfl, rfl⟩ : [] = before ∧ _ = after := by simpa using found
      simpa using stripStart?_eq_some_iff.mp stripped
    next =>
      obtain ⟨parts, cut, shape⟩ := Option.map_eq_some_iff.mp found
      obtain ⟨rfl, rfl⟩ : c :: parts.1 = before ∧ parts.2 = after := by simpa using shape
      simpa using inductionHypothesis cut

def cutWhere? (p : Char → Bool) : List Char → Option (List Char × List Char)
  | [] => none
  | c :: rest =>
    if p c then some ([], rest)
    else (cutWhere? p rest).map fun parts => (c :: parts.1, parts.2)

theorem eq_append_of_cutWhere? {p : Char → Bool} {text before after : List Char}
    (found : cutWhere? p text = some (before, after)) :
    ∃ mark, p mark = true ∧ text = before ++ mark :: after := by
  induction text generalizing before with
  | nil => simp [cutWhere?] at found
  | cons c rest inductionHypothesis =>
    rw [cutWhere?] at found
    split at found
    next holds =>
      obtain ⟨rfl, rfl⟩ : [] = before ∧ rest = after := by simpa using found
      exact ⟨c, holds, rfl⟩
    next =>
      obtain ⟨parts, cut, shape⟩ := Option.map_eq_some_iff.mp found
      obtain ⟨rfl, rfl⟩ : c :: parts.1 = before ∧ parts.2 = after := by simpa using shape
      obtain ⟨mark, holds, same⟩ := inductionHypothesis cut
      exact ⟨mark, holds, by simp [same]⟩

def cutAt? (mark : Char) (text : List Char) : Option (List Char × List Char) :=
  cutWhere? (· == mark) text

/-- The parts before and after the last occurrence of a character. -/
def cutLastAt? (mark : Char) (text : List Char) : Option (List Char × List Char) :=
  (cutAt? mark text.reverse).map fun parts => (parts.2.reverse, parts.1.reverse)

def contains (needle text : List Char) : Bool :=
  (cut? needle text).isSome

/-! ## All cuts -/

/-- The pieces between the characters of a class; there is one more piece than there are
such characters. -/
def pieces (p : Char → Bool) : List Char → List (List Char)
  | [] => [[]]
  | c :: rest =>
    if p c then [] :: pieces p rest
    else match pieces p rest with
      | [] => [[c]]
      | piece :: others => (c :: piece) :: others

def piecesAt (mark : Char) (text : List Char) : List (List Char) :=
  pieces (· == mark) text

/-- The pieces between the occurrences of a needle, found from the left.  An empty needle cuts
nothing. -/
def piecesBetween (needle : List Char) (text : List Char) : List (List Char) :=
  match found : cut? needle text with
  | none => [text]
  | some (before, after) =>
    if progress : needle = [] then [text]
    else
      have : after.length < text.length := by
        have := List.length_pos_iff.mpr progress
        have parted := congrArg List.length (eq_append_of_cut? found)
        simp only [List.length_append] at parted
        omega
      before :: piecesBetween needle after
termination_by text.length

/-- The longest runs without a blank. -/
def words (text : List Char) : List (List Char) :=
  (pieces isBlank text).filter (!·.isEmpty)

/-- A line that was ended by a line feed, without the carriage return before it. -/
def dropReturn (line : List Char) : List Char :=
  (stripEnd? ['\r'] line).getD line

/-- The pieces between line feeds as lines: what follows the last line feed is a line only
if it is not empty, and keeps its carriage return. -/
def endLines : List (List Char) → List (List Char)
  | [] => []
  | [last] => if last.isEmpty then [] else [last]
  | line :: next :: others => dropReturn line :: endLines (next :: others)

/-- The lines of a text.  A line feed, or a carriage return and a line feed, ends a line. -/
def lines (text : List Char) : List (List Char) :=
  endLines (piecesAt '\n' text)

/-! ## Joining -/

/-- The texts in a row, with a mark between each two of them. -/
def joinWith (mark : List Char) (texts : List (List Char)) : List Char :=
  (texts.intersperse mark).flatten

end Text
end Routebook
