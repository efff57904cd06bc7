import Routebook.Proofs.Token

namespace Routebook
namespace Token

/-!
# The first token of a name

The reader looks for the opening of a token and passes over it for two reasons: it may continue a
word, or another parenthesis may open before the token is closed.  It gives up at an opening that
is not closed at all.  None of this is visible in what it reads.  A token stands where the opening
begins no later part of a word and the next parenthesis behind it closes; the value of a name is
that of the first such place, whatever stands in front of it.

An opening holds one parenthesis, at its end, so two openings of one name never overlap.  What
stands behind an opening that was passed over is therefore searched as a line of its own, with the
parenthesis in front of it: `stands_iff_of_missed`.  Every opening stands in front of the closing
parenthesis of its token, so none is closed behind an opening that is not.
-/

/-- A token of the name stands behind `before`.  `previous` is the character in front of the
line. -/
structure Stands (name : String) (previous : Option Char) (line before text : List Char) :
    Prop where
  written : ∃ after, line = before ++ (opening name ++ (text ++ ')' :: after))
  starts : ∀ c ∈ before.getLast?.or previous, Text.isAlphanumeric c = false ∧ c ≠ '_'
  flat : '(' ∉ text ∧ ')' ∉ text

/-- No token of the name stands further in front. -/
structure StandsFirst (name : String) (previous : Option Char) (line before text : List Char) :
    Prop extends Stands name previous line before text where
  least : ∀ before' text', Stands name previous line before' text' →
    before.length ≤ before'.length

/-- The text of a token as its value shows it: an example is kept as it is written, and every
other text loses its blanks. -/
def shownValue (name : String) (text : List Char) : List Char :=
  if name = "example" then text else text.filter (!Text.isBlank ·)

theorem isBoundary_iff {previous : Option Char} :
    isBoundary previous = true ↔
      ∀ c ∈ previous, Text.isAlphanumeric c = false ∧ c ≠ '_' := by
  cases previous with
  | none => simp [isBoundary]
  | some c => simp [isBoundary, Text.isNameChar]

variable {name : String} {previous : Option Char} {line before after : List Char}

/-- What stands behind an opening holds what stands behind every later one. -/
theorem suffix_of_stands (found : Text.cut? (opening name) line = some (before, after))
    {before' rest : List Char} (written : line = before' ++ (opening name ++ rest)) :
    rest <:+ after := by
  subst written
  exact Text.suffix_of_cut? (opening_ne_nil name) found

/-- No opening stands further in front than the one that is found. -/
theorem length_le_of_cut? (found : Text.cut? (opening name) line = some (before, after))
    {before' rest : List Char} (written : line = before' ++ (opening name ++ rest)) :
    before.length ≤ before'.length := by
  have behind := (suffix_of_stands found written).length_le
  have lengths := congrArg List.length (written.symm.trans (Text.eq_append_of_cut? found))
  simp only [List.length_append] at lengths
  omega

/-- An opening is the one that is found, or it begins behind it. -/
theorem eq_or_behind (plain : '(' ∉ name.toList)
    (found : Text.cut? (opening name) line = some (before, after)) {before' rest : List Char}
    (written : line = before' ++ (opening name ++ rest)) :
    (before' = before ∧ rest = after) ∨
      ∃ front, before' = before ++ (opening name ++ front) ∧
        after = front ++ (opening name ++ rest) := by
  rcases suffix_of_stands found written with ⟨between, rfl⟩
  have whole : before ++ opening name ++ between = before' ++ opening name := by
    apply (List.append_left_inj rest).mp
    rw [List.append_assoc _ between, ← Text.eq_append_of_cut? found, written, List.append_assoc]
  rcases List.eq_nil_or_concat between with rfl | ⟨inner, last, rfl⟩
  · rw [List.append_nil] at whole
    exact Or.inl ⟨(List.append_cancel_right whole).symm, rfl⟩
  · right
    rw [List.concat_eq_append] at whole ⊢
    -- Both texts end in the parenthesis of the later opening, and its name stands behind the
    -- parenthesis of the first one.
    have ends : before ++ name.toList ++ '(' :: inner = before' ++ name.toList ∧ last = '(' := by
      rw [opening, ← List.append_assoc, ← List.append_assoc, ← List.append_assoc] at whole
      have parts := List.append_inj' whole rfl
      exact ⟨by simpa using parts.1, List.singleton_inj.mp parts.2⟩
    have later : name.toList <:+ before ++ name.toList ++ '(' :: inner :=
      ends.1 ▸ List.suffix_append before' name.toList
    have marked : '(' :: inner <:+ before ++ name.toList ++ '(' :: inner :=
      List.suffix_append _ _
    have within : name.toList <:+ inner := by
      rcases List.suffix_or_suffix_of_suffix later marked with inside | outside
      · rcases List.suffix_cons_iff.mp inside with same | within
        · exact absurd (same ▸ List.mem_cons_self) plain
        · exact within
      · exact absurd (outside.subset List.mem_cons_self) plain
    rcases within with ⟨front, rfl⟩
    refine ⟨front, ?_, ?_⟩
    · apply (List.append_left_inj name.toList).mp
      rw [← ends.1]
      simp [opening]
    · rw [ends.2]
      simp [opening]

/-- Where no token stands at the opening that is found, tokens stand behind it only. -/
theorem stands_iff_of_missed (plain : '(' ∉ name.toList)
    (found : Text.cut? (opening name) line = some (before, after))
    (missed : ∀ text, ¬ Stands name previous line before text) {before' text : List Char} :
    Stands name previous line before' text ↔
      ∃ front, before' = before ++ (opening name ++ front) ∧
        Stands name (some '(') after front text := by
  have last : ∀ front : List Char, (before ++ (opening name ++ front)).getLast?.or previous =
      front.getLast?.or (some '(') := by
    intro front
    simp [opening, List.getLast?_append, List.getLast?_cons]
  constructor
  · intro stands
    rcases stands.written with ⟨rest, written⟩
    rcases eq_or_behind plain found written with ⟨rfl, -⟩ | ⟨front, rfl, behind⟩
    · exact absurd stands (missed text)
    · exact ⟨front, rfl, ⟨rest, behind⟩, last front ▸ stands.starts, stands.flat⟩
  · rintro ⟨front, rfl, stands⟩
    rcases stands.written with ⟨rest, behind⟩
    refine ⟨⟨rest, ?_⟩, (last front).symm ▸ stands.starts, stands.flat⟩
    rw [Text.eq_append_of_cut? found, behind]
    simp

/-! ## Reading -/

/-- What is read is the text of the first token, or nothing where none stands. -/
def ReadsFirst (name : String) (previous : Option Char) (line : List Char)
    (read : Option (List Char)) : Prop :=
  (∃ before text, StandsFirst name previous line before text ∧ read = some text) ∨
    ((∀ before text, ¬ Stands name previous line before text) ∧ read = none)

theorem readsFirst_of_absent (absent : Text.cut? (opening name) line = none) :
    ReadsFirst name previous line none := by
  refine Or.inr ⟨fun before text stands => ?_, rfl⟩
  rcases stands.written with ⟨after, rfl⟩
  have held : opening name <:+: before ++ (opening name ++ (text ++ ')' :: after)) :=
    (List.prefix_append _ _).isInfix.trans (List.suffix_append before _).isInfix
  exact Text.cut?_eq_none_iff.mp absent held

/-- No token stands on a line whose first opening is not closed. -/
theorem readsFirst_of_unclosed (found : Text.cut? (opening name) line = some (before, after))
    (unclosed : ')' ∉ after) : ReadsFirst name previous line none := by
  refine Or.inr ⟨fun before' text stands => ?_, rfl⟩
  rcases stands.written with ⟨rest, written⟩
  exact unclosed ((suffix_of_stands found written).subset
    (List.mem_append_right text List.mem_cons_self))

/-- An opening at which no token stands leaves the search to what follows it. -/
theorem ReadsFirst.of_missed (plain : '(' ∉ name.toList)
    (found : Text.cut? (opening name) line = some (before, after))
    (missed : ∀ text, ¬ Stands name previous line before text) {read : Option (List Char)}
    (behind : ReadsFirst name (some '(') after read) : ReadsFirst name previous line read := by
  have shift := @stands_iff_of_missed name previous line before after plain found missed
  rcases behind with ⟨front, text, first, value⟩ | ⟨none, value⟩
  · left
    refine ⟨before ++ (opening name ++ front), text,
      ⟨shift.mpr ⟨front, rfl, first.toStands⟩, fun before' text' other => ?_⟩, value⟩
    rcases shift.mp other with ⟨front', rfl, later⟩
    have least := first.least front' text' later
    simp only [List.length_append]
    omega
  · right
    refine ⟨fun before' text' other => ?_, value⟩
    rcases shift.mp other with ⟨front', -, later⟩
    exact none front' text' later

/-- A text that ends at the next closing parenthesis is the text of every token at its opening. -/
theorem Stands.eq_of_cutAt? (found : Text.cut? (opening name) line = some (before, after))
    {text value rest : List Char} (stands : Stands name previous line before text)
    (closed : Text.cutAt? ')' after = some (value, rest)) : text = value := by
  rcases stands.written with ⟨rest', written⟩
  have same : after = text ++ ')' :: rest' := by
    apply (List.append_right_inj (before ++ opening name)).mp
    rw [← Text.eq_append_of_cut? found, written, List.append_assoc]
  rw [same, Text.cutAt?_append_cons stands.flat.2] at closed
  exact (Prod.mk.inj (Option.some.inj closed)).1

theorem readsFirst_of_closed (found : Text.cut? (opening name) line = some (before, after))
    (boundary : isBoundary (before.getLast?.or previous) = true) {value rest : List Char}
    (closed : Text.cutAt? ')' after = some (value, rest)) (flat : '(' ∉ value) :
    ReadsFirst name previous line (some value) := by
  have written : line = before ++ (opening name ++ (value ++ ')' :: rest)) := by
    rw [← Text.eq_append_of_cutAt? closed, Text.eq_append_of_cut? found, List.append_assoc]
  refine Or.inl ⟨before, value, ⟨⟨⟨rest, written⟩, isBoundary_iff.mp boundary, flat,
    Text.not_mem_of_cutAt? closed⟩, fun before' text' other => ?_⟩, rfl⟩
  rcases other.written with ⟨rest', elsewhere⟩
  exact length_le_of_cut? found elsewhere

/-- The reader finds the first token, and nothing exactly where none stands. -/
theorem readsFirst_rawValue? (plain : '(' ∉ name.toList) (previous : Option Char)
    (line : List Char) :
    ReadsFirst name previous line (rawValue? (opening name) previous line) := by
  induction length : line.length using Nat.strong_induction_on generalizing previous line with
  | _ count inductionHypothesis =>
    cases found : Text.cut? (opening name) line with
    | none =>
      rw [rawValue?_of_absent (Text.cut?_eq_none_iff.mp found)]
      exact readsFirst_of_absent found
    | some parts =>
      rcases parts with ⟨before, after⟩
      have shorter : after.length < count := by
        simp only [← length, Text.eq_append_of_cut? found, opening, List.length_append,
          List.length_cons]
        omega
      have behind := inductionHypothesis after.length shorter (some '(') after rfl
      rw [rawValue?_of_found found]
      split
      next boundary =>
        cases closed : Text.cutAt? ')' after with
        | none => exact readsFirst_of_unclosed found (Text.cutAt?_eq_none_iff.mp closed)
        | some split =>
          rcases split with ⟨value, rest⟩
          dsimp only
          split
          next nested =>
            refine behind.of_missed plain found fun text stands => ?_
            exact stands.flat.1 (stands.eq_of_cutAt? found closed ▸ List.contains_iff_mem.mp nested)
          next flat =>
            exact readsFirst_of_closed found boundary closed fun nested =>
              flat (List.contains_iff_mem.mpr nested)
      next inside =>
        exact behind.of_missed plain found fun text stands =>
          inside (isBoundary_iff.mpr stands.starts)

/-! ## What tells lines apart -/

/-- No other token stands at the same place. -/
theorem Stands.unique {before' text text' : List Char}
    (stands : Stands name previous line before text)
    (other : Stands name previous line before' text') (place : before.length = before'.length) :
    before = before' ∧ text = text' := by
  rcases stands.written with ⟨after, written⟩
  rcases other.written with ⟨after', written'⟩
  rcases List.append_inj (written.symm.trans written') place with ⟨rfl, behind⟩
  have closed := Text.cutAt?_append_cons stands.flat.2 after
  rw [List.append_cancel_left behind, Text.cutAt?_append_cons other.flat.2] at closed
  exact ⟨rfl, (Prod.mk.inj (Option.some.inj closed)).1.symm⟩

/-- Lines with the same tokens have the same first one. -/
theorem ReadsFirst.unique {line' : List Char} {read read' : Option (List Char)}
    (reads : ReadsFirst name previous line read) (reads' : ReadsFirst name previous line' read')
    (same : ∀ before text,
      Stands name previous line before text ↔ Stands name previous line' before text) :
    read = read' := by
  rcases reads with ⟨before, text, first, rfl⟩ | ⟨none, rfl⟩
  · rcases reads' with ⟨before', text', first', rfl⟩ | ⟨none', rfl⟩
    · have other := (same before' text').mpr first'.toStands
      have place := Nat.le_antisymm (first.least before' text' other)
        (first'.least before text ((same before text).mp first.toStands))
      rw [(first.toStands.unique other place).2]
    · exact absurd ((same before text).mp first.toStands) (none' before text)
  · rcases reads' with ⟨before', text', first', rfl⟩ | ⟨none', rfl⟩
    · exact absurd ((same before' text').mpr first'.toStands) (none before' text')
    · rfl

/-- A token ends in a parenthesis, so none reaches into a text without one. -/
theorem stands_append_iff {rest : List Char} (free : ')' ∉ rest) {text : List Char} :
    Stands name previous (line ++ rest) before text ↔ Stands name previous line before text := by
  constructor
  · intro stands
    rcases stands.written with ⟨after, written⟩
    refine ⟨?_, stands.starts, stands.flat⟩
    have split : line ++ rest = (before ++ (opening name ++ text)) ++ ')' :: after := by
      rw [written]
      simp
    rcases Text.exists_of_append_eq free split with ⟨more, whole, -⟩
    exact ⟨more, by rw [whole]; simp⟩
  · intro stands
    rcases stands.written with ⟨after, rfl⟩
    exact ⟨⟨after ++ rest, by simp⟩, stands.starts, stands.flat⟩

/-- A text without a closing parenthesis makes no difference behind a line. -/
theorem rawValue?_append (plain : '(' ∉ name.toList) (previous : Option Char) (line : List Char)
    {rest : List Char} (free : ')' ∉ rest) :
    rawValue? (opening name) previous (line ++ rest) = rawValue? (opening name) previous line :=
  (readsFirst_rawValue? plain previous (line ++ rest)).unique
    (readsFirst_rawValue? plain previous line) fun _ _ => stands_append_iff free

/-! ## Values -/

/-- The value of a name is the text of its first token, and empty where no token stands. -/
theorem value_of_first_token (name : String) (plain : '(' ∉ name.toList) (line : List Char) :
    (∃ before text, StandsFirst name none line before text ∧
      value name line = shownValue name text) ∨
    ((∀ before text, ¬ Stands name none line before text) ∧ value name line = []) := by
  rcases readsFirst_rawValue? plain none line with ⟨before, text, first, reads⟩ | ⟨none, reads⟩
  · left
    refine ⟨before, text, first, ?_⟩
    rw [value, reads, shownValue]
    by_cases verbatim : name = "example"
    · rw [verbatim]
      rfl
    · have kept : ¬ (name == verbatimName) = true := fun same => verbatim (beq_iff_eq.mp same)
      rw [if_neg verbatim]
      exact if_neg kept
  · right
    refine ⟨none, ?_⟩
    rw [value, reads]

/-- A word that ends like the name, a token that is never closed before another one opens and a
later token stand beside the one that is read. -/
theorem value_of_first_token_with :
    '(' ∉ "with".toList ∧
      (∃ before text,
        StandsFirst "with" none "startswith(a) with(b with(c, d) with(e".toList before text ∧
          value "with" "startswith(a) with(b with(c, d) with(e".toList =
            shownValue "with" text) ∧
      value "with" "startswith(a) with(b with(c, d) with(e".toList = "c,d".toList := by
  have plain : '(' ∉ "with".toList := by decide
  have stands : Stands "with" none "startswith(a) with(b with(c, d) with(e".toList
      "startswith(a) with(b ".toList "c, d".toList :=
    ⟨⟨" with(e".toList, by decide⟩, isBoundary_iff.mp (by decide), by decide⟩
  have first := (value_of_first_token "with" plain
    "startswith(a) with(b with(c, d) with(e".toList).resolve_right
      fun none => none.1 _ _ stands
  exact ⟨plain, first, by decide +kernel⟩

end Token
end Routebook
