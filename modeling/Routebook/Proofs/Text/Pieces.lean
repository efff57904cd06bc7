import Mathlib.Data.List.TakeWhile
import Routebook.Proofs.Text.Cut
import Routebook.Proofs.Text.Trim

namespace Routebook
namespace Text

/-!
# Laws of pieces and lines

Cutting a text everywhere undoes joining texts, if no text holds the mark.  A mark that is longer
than one character needs more: an occurrence may begin in a text and end in the mark behind it.

The first line of a text that is not blank is found without cutting the text into lines: blanks
are dropped at the start, line ends among them, and the rest is read up to the next line end.
-/

/-! ## Fronts -/

/-- The characters of a class at the start of a text end where one of another class stands. -/
theorem span_append {p : Char → Bool} {front rest : List Char} (within : ∀ c ∈ front, p c = true)
    (stop : ∀ c, rest.head? = some c → p c = false) :
    (front ++ rest).takeWhile p = front ∧ (front ++ rest).dropWhile p = rest := by
  have ends : rest.takeWhile p = [] ∧ rest.dropWhile p = rest := by
    cases rest with
    | nil => exact ⟨rfl, rfl⟩
    | cons c rest => simp [stop c rfl]
  rw [List.takeWhile_append_of_pos within, List.dropWhile_append_of_pos within, ends.1, ends.2,
    List.append_nil]
  exact ⟨rfl, rfl⟩

/-- Every text has such a start. -/
theorem exists_span (p : Char → Bool) (text : List Char) :
    ∃ front rest, text = front ++ rest ∧ (∀ c ∈ front, p c = true) ∧
      (∀ c, rest.head? = some c → p c = false) ∧ text.takeWhile p = front ∧
      text.dropWhile p = rest := by
  refine ⟨text.takeWhile p, text.dropWhile p, List.takeWhile_append_dropWhile.symm,
    fun c member => List.mem_takeWhile_imp member, ?_, rfl, rfl⟩
  intro c first
  have stop := List.head?_dropWhile_not p text
  rw [first] at stop
  simpa using stop

/-! ## Pieces -/

section Pieces

variable {p : Char → Bool} {c : Char}

theorem pieces_cons_of_mark (mark : p c = true) (rest : List Char) :
    pieces p (c :: rest) = [] :: pieces p rest := by
  rw [pieces, if_pos mark]

/-- The first piece ends before the first mark. -/
theorem pieces_eq_cons (p : Char → Bool) (text : List Char) :
    ∃ others, pieces p text = text.takeWhile (!p ·) :: others := by
  induction text with
  | nil => exact ⟨[], rfl⟩
  | cons c rest inductionHypothesis =>
    by_cases mark : p c = true
    · exact ⟨pieces p rest, by rw [pieces_cons_of_mark mark]; simp [mark]⟩
    · rcases inductionHypothesis with ⟨others, cut⟩
      exact ⟨others, by rw [pieces, if_neg mark, cut]; simp [mark]⟩

/-- A character that is no mark belongs to the first piece. -/
theorem pieces_cons_of_not (keeps : p c = false) {rest piece : List Char}
    {others : List (List Char)} (cut : pieces p rest = piece :: others) :
    pieces p (c :: rest) = (c :: piece) :: others := by
  rw [pieces, if_neg (by simp [keeps]), cut]

theorem pieces_of_free {text : List Char} (free : ∀ c ∈ text, p c = false) :
    pieces p text = [text] := by
  induction text with
  | nil => rfl
  | cons c rest inductionHypothesis =>
    have tail := inductionHypothesis fun other member => free other (List.mem_cons_of_mem c member)
    exact pieces_cons_of_not (free c List.mem_cons_self) tail

theorem words_of_solid {text : List Char} (filled : text ≠ [])
    (solid : ∀ c ∈ text, isBlank c = false) : words text = [text] := by
  rw [words, pieces_of_free solid, List.filter_cons_of_pos (by simpa using filled), List.filter_nil]

theorem not_mark_of_mem_pieces {text piece : List Char} (member : piece ∈ pieces p text) :
    ∀ c ∈ piece, p c = false := by
  induction text generalizing piece with
  | nil =>
    rw [pieces, List.mem_singleton] at member
    rw [member]
    exact fun c inside => nomatch inside
  | cons first rest inductionHypothesis =>
    by_cases mark : p first = true
    · rw [pieces_cons_of_mark mark, List.mem_cons] at member
      rcases member with rfl | later
      · exact fun c inside => nomatch inside
      · exact inductionHypothesis later
    · rcases pieces_eq_cons p rest with ⟨others, cut⟩
      rw [pieces_cons_of_not (Bool.eq_false_iff.mpr mark) cut, List.mem_cons] at member
      rw [cut] at inductionHypothesis
      rcases member with rfl | later
      · intro c inside
        rcases List.mem_cons.mp inside with rfl | behind
        · exact Bool.eq_false_iff.mpr mark
        · exact inductionHypothesis List.mem_cons_self c behind
      · exact inductionHypothesis (List.mem_cons_of_mem _ later)

theorem pieces_append_mark {before : List Char} (free : ∀ c ∈ before, p c = false)
    (mark : p c = true) (after : List Char) :
    pieces p (before ++ c :: after) = before :: pieces p after := by
  induction before with
  | nil => exact pieces_cons_of_mark mark after
  | cons other before inductionHypothesis =>
    have tail := inductionHypothesis fun c member => free c (List.mem_cons_of_mem other member)
    exact pieces_cons_of_not (free other List.mem_cons_self) tail

end Pieces

/-! ## Joining -/

theorem joinWith_singleton (mark text : List Char) : joinWith mark [text] = text := by
  simp [joinWith]

theorem joinWith_cons {others : List (List Char)} (nonempty : others ≠ [])
    (mark first : List Char) :
    joinWith mark (first :: others) = first ++ (mark ++ joinWith mark others) := by
  rcases List.exists_cons_of_ne_nil nonempty with ⟨second, behind, rfl⟩
  simp [joinWith]

theorem joinWith_append_cons (mark head first : List Char) (others : List (List Char)) :
    joinWith mark ((head ++ first) :: others) = head ++ joinWith mark (first :: others) := by
  by_cases single : others = []
  · rw [single, joinWith_singleton, joinWith_singleton]
  · rw [joinWith_cons single, joinWith_cons single, List.append_assoc]

theorem joinWith_concat {texts : List (List Char)} (nonempty : texts ≠ []) (mark last : List Char) :
    joinWith mark (texts ++ [last]) = joinWith mark texts ++ (mark ++ last) := by
  induction texts with
  | nil => exact absurd rfl nonempty
  | cons first others inductionHypothesis =>
    have more : others ++ [last] ≠ [] :=
      List.append_ne_nil_of_right_ne_nil others (List.cons_ne_nil last [])
    rw [List.cons_append, joinWith_cons more]
    by_cases single : others = []
    · rw [single, List.nil_append, joinWith_singleton, joinWith_singleton]
    · rw [inductionHypothesis single, joinWith_cons single, List.append_assoc, List.append_assoc]

theorem mem_joinWith {mark : List Char} {texts : List (List Char)} {c : Char}
    (member : c ∈ joinWith mark texts) : c ∈ mark ∨ ∃ text ∈ texts, c ∈ text := by
  induction texts with
  | nil => cases member
  | cons first others inductionHypothesis =>
    by_cases single : others = []
    · rw [single, joinWith_singleton] at member
      exact Or.inr ⟨first, List.mem_cons_self, member⟩
    · rw [joinWith_cons single, List.mem_append, List.mem_append] at member
      rcases member with here | between | later
      · exact Or.inr ⟨first, List.mem_cons_self, here⟩
      · exact Or.inl between
      · rcases inductionHypothesis later with between | ⟨text, inside, here⟩
        · exact Or.inl between
        · exact Or.inr ⟨text, List.mem_cons_of_mem first inside, here⟩

/-- Texts without blanks at their ends are joined to one of that kind. -/
theorem trim_joinWith {mark : List Char} {texts : List (List Char)}
    (written : ∀ text ∈ texts, text ≠ [] ∧ trim text = text) :
    trim (joinWith mark texts) = joinWith mark texts := by
  apply trim_eq_self
  · intro c begins
    cases texts with
    | nil => cases begins
    | cons first others =>
      have is := written first List.mem_cons_self
      apply (not_of_trimWhere_eq_self is.2).1 c
      by_cases single : others = []
      · rwa [single, joinWith_singleton] at begins
      · rwa [joinWith_cons single, List.head?_append_of_ne_nil _ is.1] at begins
  · intro c ends
    rcases List.eq_nil_or_concat texts with rfl | ⟨front, last, rfl⟩
    · cases ends
    · rw [List.concat_eq_append] at written ends
      have is := written last (by simp)
      apply (not_of_trimWhere_eq_self is.2).2 c
      by_cases single : front = []
      · rwa [single, List.nil_append, joinWith_singleton] at ends
      · rwa [joinWith_concat single, ← List.append_assoc,
          List.getLast?_append_of_ne_nil _ is.1] at ends

/-- Texts without the mark are the pieces of what they are joined to. -/
theorem piecesAt_joinWith {mark : Char} {texts : List (List Char)} (nonempty : texts ≠ [])
    (free : ∀ text ∈ texts, mark ∉ text) : piecesAt mark (joinWith [mark] texts) = texts := by
  have apart : ∀ text ∈ texts, ∀ c ∈ text, (c == mark) = false := by
    intro text member c inside
    exact beq_eq_false_iff_ne.mpr fun same => free text member (same ▸ inside)
  unfold piecesAt
  induction texts with
  | nil => exact absurd rfl nonempty
  | cons first others inductionHypothesis =>
    by_cases single : others = []
    · rw [single, joinWith_singleton, pieces_of_free (apart first List.mem_cons_self)]
    · rw [joinWith_cons single, List.singleton_append,
        pieces_append_mark (apart first List.mem_cons_self) (beq_self_eq_true mark),
        inductionHypothesis single
          (fun text member => free text (List.mem_cons_of_mem first member))
          fun text member => apart text (List.mem_cons_of_mem first member)]

theorem piecesAt_ne_nil (mark : Char) (text : List Char) : piecesAt mark text ≠ [] := by
  rcases pieces_eq_cons (· == mark) text with ⟨others, cut⟩
  rw [piecesAt, cut]
  exact List.cons_ne_nil _ _

/-- No piece holds the mark. -/
theorem not_mem_of_mem_piecesAt {mark : Char} {text piece : List Char}
    (member : piece ∈ piecesAt mark text) : mark ∉ piece := by
  intro inside
  have apart := not_mark_of_mem_pieces member mark inside
  rw [beq_self_eq_true] at apart
  exact Bool.false_ne_true apart.symm

/-- A mark ends the pieces in front of it, and the pieces behind it follow. -/
theorem piecesAt_append_cons (mark : Char) (before after : List Char) :
    piecesAt mark (before ++ mark :: after) = piecesAt mark before ++ piecesAt mark after := by
  unfold piecesAt
  induction before with
  | nil => exact @pieces_cons_of_mark (· == mark) mark (beq_self_eq_true mark) after
  | cons c before inductionHypothesis =>
    by_cases same : (c == mark) = true
    · have first := fun rest => @pieces_cons_of_mark (· == mark) c same rest
      rw [List.cons_append, first, first, inductionHypothesis, List.cons_append]
    · have keeps : (c == mark) = false := Bool.eq_false_iff.mpr same
      rcases pieces_eq_cons (· == mark) before with ⟨others, cut⟩
      have longer := inductionHypothesis
      rw [cut, List.cons_append] at longer
      have first := @pieces_cons_of_not (· == mark) c keeps
      rw [List.cons_append, first longer, first cut, List.cons_append]

/-- The pieces of a text are joined to it again. -/
theorem joinWith_piecesAt (mark : Char) (text : List Char) :
    joinWith [mark] (piecesAt mark text) = text := by
  unfold piecesAt
  induction text with
  | nil => rfl
  | cons c rest inductionHypothesis =>
    rcases pieces_eq_cons (· == mark) rest with ⟨others, cut⟩
    by_cases same : c = mark
    · have more : pieces (· == mark) rest ≠ [] := cut ▸ List.cons_ne_nil _ _
      have first := pieces_cons_of_mark (p := (· == mark)) (beq_iff_eq.mpr same) rest
      rw [first, joinWith_cons more, inductionHypothesis, same]
      rfl
    · have first := pieces_cons_of_not (p := (· == mark)) (beq_eq_false_iff_ne.mpr same) cut
      have front := joinWith_append_cons [mark] [c] (rest.takeWhile fun c => !(c == mark)) others
      rw [← cut, inductionHypothesis] at front
      rw [first]
      exact front

theorem piecesBetween_of_free {needle text : List Char} (free : ¬ needle <:+: text) :
    piecesBetween needle text = [text] := by
  rw [piecesBetween.eq_def]
  split
  · rfl
  next found =>
    have none := cut?_eq_none_iff.mpr free
    exact absurd (found.symm.trans none) (Option.some_ne_none _)

theorem piecesBetween_of_cut? {needle text before after : List Char} (nonempty : needle ≠ [])
    (cut : cut? needle text = some (before, after)) :
    piecesBetween needle text = before :: piecesBetween needle after := by
  rw [piecesBetween.eq_def]
  split
  next none => exact absurd (cut.symm.trans none) (Option.some_ne_none _)
  next found =>
    rcases Prod.mk.inj (Option.some.inj (found.symm.trans cut)) with ⟨rfl, rfl⟩
    rw [dif_neg nonempty]

theorem piecesBetween_ne_nil (needle text : List Char) : piecesBetween needle text ≠ [] := by
  rw [piecesBetween.eq_def]
  split
  · exact List.cons_ne_nil text []
  · split
    · exact List.cons_ne_nil text []
    · exact List.cons_ne_nil _ _

/-- Texts are the first pieces of what they are joined to, if no mark begins in one of them. -/
theorem piecesBetween_joinWith_concat {mark : List Char} (nonempty : mark ≠ [])
    {texts : List (List Char)} (free : ∀ text ∈ texts, ¬ mark <:+: text ++ mark.dropLast)
    (last : List Char) :
    piecesBetween mark (joinWith mark (texts ++ [last])) = texts ++ piecesBetween mark last := by
  induction texts with
  | nil => rw [List.nil_append, joinWith_singleton, List.nil_append]
  | cons first others inductionHypothesis =>
    have tail := inductionHypothesis fun text member =>
      free text (List.mem_cons_of_mem first member)
    have more : others ++ [last] ≠ [] :=
      List.append_ne_nil_of_right_ne_nil others (List.cons_ne_nil last [])
    have cut := cut?_append nonempty (free first List.mem_cons_self)
      (joinWith mark (others ++ [last]))
    rw [List.cons_append, joinWith_cons more, piecesBetween_of_cut? nonempty cut, tail,
      List.cons_append]

theorem piecesBetween_joinWith {mark : List Char} (nonempty : mark ≠ []) {texts : List (List Char)}
    {last : List Char} (free : ∀ text ∈ texts, ¬ mark <:+: text ++ mark.dropLast)
    (freeLast : ¬ mark <:+: last) :
    piecesBetween mark (joinWith mark (texts ++ [last])) = texts ++ [last] := by
  rw [piecesBetween_joinWith_concat nonempty free, piecesBetween_of_free freeLast]

/-- Pieces behind a text: the text belongs to the first of them. -/
theorem piecesBetween_append_cons {needle front : List Char} {c : Char} (apart : c ∉ needle)
    (free : ¬ needle <:+: front) {text piece : List Char} {others : List (List Char)}
    (pieces : piecesBetween needle text = piece :: others) :
    piecesBetween needle (front ++ c :: text) = (front ++ c :: piece) :: others := by
  have nonempty : needle ≠ [] := by
    rintro rfl
    exact free List.nil_infix
  have cut := cut?_append_cons apart free text
  cases found : cut? needle text with
  | none =>
    rw [piecesBetween_of_free (cut?_eq_none_iff.mp found)] at pieces
    obtain ⟨rfl, rfl⟩ := List.cons.inj pieces
    rw [found, Option.map_none] at cut
    rw [piecesBetween_of_free (cut?_eq_none_iff.mp cut)]
  | some parts =>
    rw [piecesBetween_of_cut? nonempty found] at pieces
    obtain ⟨rfl, rfl⟩ := List.cons.inj pieces
    rw [found, Option.map_some] at cut
    rw [piecesBetween_of_cut? nonempty cut]

/-- Pieces in front of a character apart from the needle: it belongs to the last of them. -/
theorem piecesBetween_concat {needle : List Char} {c : Char} (nonempty : needle ≠ [])
    (apart : c ∉ needle) (text : List Char) :
    ∃ front last, piecesBetween needle text = front ++ [last] ∧
      piecesBetween needle (text ++ [c]) = front ++ [last ++ [c]] := by
  induction text using piecesBetween.induct needle with
  | case1 text none =>
    have free := cut?_eq_none_iff.mp none
    have free' : ¬ needle <:+: text ++ [c] := by
      rw [infix_append_cons_iff apart]
      rintro (held | held)
      · exact free held
      · exact nonempty (List.infix_nil.mp held)
    exact ⟨[], text, piecesBetween_of_free free, piecesBetween_of_free free'⟩
  | case2 text before after found empty => exact absurd empty nonempty
  | case3 text before after found _ _ inductionHypothesis =>
    obtain ⟨front, last, pieces, closed⟩ := inductionHypothesis
    refine ⟨before :: front, last, ?_, ?_⟩
    · rw [piecesBetween_of_cut? nonempty found, pieces, List.cons_append]
    · rw [piecesBetween_of_cut? nonempty (cut?_append_right found [c]), closed, List.cons_append]

/-- Every text is joined from its pieces. -/
theorem joinWith_piecesBetween {mark : List Char} (nonempty : mark ≠ []) (text : List Char) :
    joinWith mark (piecesBetween mark text) = text := by
  induction text using piecesBetween.induct mark with
  | case1 text none =>
    rw [piecesBetween_of_free (cut?_eq_none_iff.mp none), joinWith_singleton]
  | case2 text before after found empty => exact absurd empty nonempty
  | case3 text before after found progress shorter inductionHypothesis =>
    rw [piecesBetween_of_cut? nonempty found, joinWith_cons (piecesBetween_ne_nil mark after),
      inductionHypothesis, eq_append_of_cut? found, List.append_assoc]

/-- No piece holds the mark. -/
theorem not_infix_of_mem_piecesBetween {mark : List Char} (nonempty : mark ≠ [])
    {text piece : List Char} (member : piece ∈ piecesBetween mark text) : ¬ mark <:+: piece := by
  induction text using piecesBetween.induct mark with
  | case1 text none =>
    rw [piecesBetween_of_free (cut?_eq_none_iff.mp none), List.mem_singleton] at member
    rw [member]
    exact cut?_eq_none_iff.mp none
  | case2 text before after found empty => exact absurd empty nonempty
  | case3 text before after found progress shorter inductionHypothesis =>
    rw [piecesBetween_of_cut? nonempty found, List.mem_cons] at member
    rcases member with rfl | later
    · exact not_infix_of_cut? nonempty found
    · exact inductionHypothesis later

theorem filter_joinWith (p : Char → Bool) (mark : List Char) (texts : List (List Char)) :
    (joinWith mark texts).filter p = joinWith (mark.filter p) (texts.map (·.filter p)) := by
  induction texts with
  | nil => rfl
  | cons first others inductionHypothesis =>
    by_cases single : others = []
    · rw [single, joinWith_singleton, List.map_singleton, joinWith_singleton]
    · have more : others.map (·.filter p) ≠ [] := fun none => single (List.map_eq_nil_iff.mp none)
      rw [joinWith_cons single, List.filter_append, List.filter_append, inductionHypothesis,
        List.map_cons, joinWith_cons more]

/-! ## Rows -/

/-- The lines of a text that are not blank, trimmed. -/
def rows (text : List Char) : List (List Char) :=
  ((lines text).map trim).filter (!·.isEmpty)

/-! ## The first line -/

/-- The first line of a text that is not blank, trimmed. -/
def firstLine? (text : List Char) : Option (List Char) :=
  ((lines text).map trim).find? (!·.isEmpty)

theorem trim_dropReturn (line : List Char) : trim (dropReturn line) = trim line := by
  unfold dropReturn
  cases stripped : stripEnd? ['\r'] line with
  | none => rfl
  | some rest =>
    rw [stripEnd?_eq_some_iff.mp stripped]
    exact (trimWhere_concat (by decide) rest).symm

/-- Line ends and a missing last line make no difference to what is left of the lines, if nothing
is left of an empty line. -/
theorem filter_map_lines {keep : List Char → List Char} (nothing : keep [] = [])
    (ends : ∀ line, keep (dropReturn line) = keep line) (text : List Char) :
    ((lines text).map keep).filter (!·.isEmpty) =
      ((piecesAt '\n' text).map keep).filter (!·.isEmpty) := by
  unfold lines
  generalize piecesAt '\n' text = texts
  induction texts with
  | nil => rfl
  | cons first others inductionHypothesis =>
    cases others with
    | nil =>
      rw [endLines]
      split
      next empty =>
        rw [List.isEmpty_iff.mp empty, List.map_singleton, nothing]
        rfl
      next => rfl
    | cons second others =>
      rw [endLines, List.map_cons, List.map_cons, ends, List.filter_cons, List.filter_cons,
        inductionHypothesis]

/-- The first line that is not blank is the first piece that is not. -/
theorem firstLine?_eq_find?_pieces (text : List Char) :
    firstLine? text = ((piecesAt '\n' text).map trim).find? (!·.isEmpty) := by
  rw [firstLine?, ← List.head?_filter, filter_map_lines rfl trim_dropReturn, List.head?_filter]

/-- Blanks at the start are passed over, and what follows up to the line end is the first
line. -/
theorem firstLine?_eq (text : List Char) :
    firstLine? text =
      if trimStart text = [] then none
      else some (trimEnd ((trimStart text).takeWhile (· != '\n'))) := by
  rw [firstLine?_eq_find?_pieces]
  unfold piecesAt
  induction text with
  | nil => rfl
  | cons c rest inductionHypothesis =>
    rcases pieces_eq_cons (· == '\n') rest with ⟨others, cut⟩
    by_cases blank : isBlank c = true
    · have start : trimStart (c :: rest) = trimStart rest := List.dropWhile_cons_of_pos blank
      rw [start, ← inductionHypothesis]
      by_cases lineEnd : c = '\n'
      · rw [lineEnd, pieces_cons_of_mark (by decide)]
        rfl
      · have same : trim (c :: rest.takeWhile (!(· == '\n') ·)) =
            trim (rest.takeWhile (!(· == '\n') ·)) := trimWhere_cons blank _
        rw [pieces_cons_of_not (by simpa using lineEnd) cut, cut, List.map_cons, List.map_cons,
          same]
    · have keeps : isBlank c = false := Bool.eq_false_iff.mpr blank
      have start : trimStart (c :: rest) = c :: rest := List.dropWhile_cons_of_neg blank
      have lineEnd : c ≠ '\n' := by
        rintro rfl
        exact absurd keeps (by decide)
      have line : trim (c :: rest.takeWhile (!(· == '\n') ·)) =
          trimEnd (c :: rest.takeWhile (!(· == '\n') ·)) := trimWhere_cons_of_not keeps _
      have filled : trimEnd (c :: rest.takeWhile (!(· == '\n') ·)) ≠ [] :=
        trimEndWhere_cons_ne_nil keeps _
      rw [start, if_neg (List.cons_ne_nil c rest), pieces_cons_of_not (by simpa using lineEnd) cut,
        List.map_cons, line, List.takeWhile_cons_of_pos (by simpa using lineEnd),
        List.find?_cons_of_pos (by simpa using filled)]
      rfl

end Text
end Routebook
