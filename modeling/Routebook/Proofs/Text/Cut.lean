import Mathlib.Data.List.Infix
import Routebook.Text.Cut

namespace Routebook
namespace Text

/-!
# Laws of cuts

A cut at the first or the last occurrence of a character is found where the character stands
and does not stand before it, or behind it.  The tests whether a text begins with another one
or holds it decide the relations on lists of that kind.
-/

/-! ## Tests -/

theorem startsWith_iff {head text : List Char} : startsWith head text = true ↔ head <+: text := by
  rw [startsWith, Option.isSome_iff_exists]
  constructor
  · rintro ⟨rest, stripped⟩
    exact ⟨rest, (stripStart?_eq_some_iff.mp stripped).symm⟩
  · rintro ⟨rest, whole⟩
    exact ⟨rest, stripStart?_eq_some_iff.mpr whole.symm⟩

theorem stripStart?_eq_none_iff {head text : List Char} :
    stripStart? head text = none ↔ ¬ head <+: text := by
  rw [← startsWith_iff, startsWith, Bool.not_eq_true, Option.isSome_eq_false_iff,
    Option.isNone_iff_eq_none]

/-- A text does not begin with a word that has a character which the text does not have. -/
theorem stripStart?_eq_none_of_not_mem {head text : List Char} {c : Char} (needed : c ∈ head)
    (free : c ∉ text) : stripStart? head text = none :=
  stripStart?_eq_none_iff.mpr fun begins => free (begins.subset needed)

theorem startsWith_singleton_iff {c : Char} {text : List Char} :
    startsWith [c] text = true ↔ text.head? = some c := by
  rw [startsWith_iff, List.head?_eq_some_iff]
  exact exists_congr fun rest => eq_comm

theorem endsWith_singleton_iff {c : Char} {text : List Char} :
    endsWith [c] text = true ↔ text.getLast? = some c := by
  rw [endsWith, Option.isSome_iff_exists, List.getLast?_eq_some_iff]
  exact exists_congr fun rest => stripEnd?_eq_some_iff

theorem contains_iff {needle text : List Char} :
    contains needle text = true ↔ needle <:+: text := by
  unfold contains
  induction text with
  | nil =>
    cases needle with
    | nil => simp [cut?]
    | cons c needle => simp [cut?]
  | cons c rest inductionHypothesis =>
    rw [List.infix_cons_iff, ← startsWith_iff, ← inductionHypothesis, cut?, startsWith]
    cases stripStart? needle (c :: rest) with
    | some after => simp
    | none => simp

/-- A text that holds the needle still does within a longer one. -/
theorem contains_append {needle text : List Char} (held : contains needle text = true)
    (before after : List Char) : contains needle (before ++ text ++ after) = true := by
  have inner : needle <:+: text := contains_iff.mp held
  exact contains_iff.mpr (inner.trans (List.infix_append before text after))

/-! ## Repeated heads -/

theorem dropRepeated_of_stripStart?_eq_none {head text : List Char}
    (apart : stripStart? head text = none) : dropRepeated head text = text := by
  cases head with
  | nil => cases apart
  | cons first others =>
    rw [dropRepeated]
    split
    next found => exact absurd (found.symm.trans apart) (Option.some_ne_none _)
    next => rfl

theorem dropRepeated_append {head : List Char} (nonempty : head ≠ []) (text : List Char) :
    dropRepeated head (head ++ text) = dropRepeated head text := by
  cases head with
  | nil => exact absurd rfl nonempty
  | cons first others =>
    have stripped : stripStart? (first :: others) (first :: others ++ text) = some text :=
      stripStart?_eq_some_iff.mpr rfl
    rw [dropRepeated]
    split
    next found =>
      rcases Option.some.inj (found.symm.trans stripped) with rfl
      rfl
    next none => exact absurd (stripped.symm.trans none) (Option.some_ne_none _)

/-! ## Cuts at a character -/

/-- The first character of a class ends the characters that are not of the class. -/
theorem cutWhere?_append_cons {p : Char → Bool} {before : List Char} {mark : Char}
    (free : ∀ c ∈ before, p c = false) (holds : p mark = true) (after : List Char) :
    cutWhere? p (before ++ mark :: after) = some (before, after) := by
  induction before with
  | nil => simp [cutWhere?, holds]
  | cons c rest inductionHypothesis =>
    have tail := inductionHypothesis fun other member => free other (List.mem_cons_of_mem c member)
    simp [cutWhere?, free c List.mem_cons_self, tail]

/-- The first occurrence of a mark ends the characters that are no mark. -/
theorem cutAt?_append_cons {mark : Char} {before : List Char} (free : mark ∉ before)
    (after : List Char) : cutAt? mark (before ++ mark :: after) = some (before, after) := by
  have apart : ∀ c ∈ before, (c == mark) = false := by
    intro c member
    apply beq_eq_false_iff_ne.mpr
    rintro rfl
    exact free member
  exact cutWhere?_append_cons (p := (· == mark)) apart (beq_self_eq_true mark) after

/-- No mark stands before the place of a cut. -/
theorem not_mem_of_cutAt? {mark : Char} {text before after : List Char}
    (found : cutAt? mark text = some (before, after)) : mark ∉ before := by
  unfold cutAt? at found
  induction text generalizing before with
  | nil => cases found
  | cons c rest inductionHypothesis =>
    rw [cutWhere?] at found
    split at found
    next =>
      rw [← (Prod.mk.inj (Option.some.inj found)).1]
      exact List.not_mem_nil
    next other =>
      rcases Option.map_eq_some_iff.mp found with ⟨parts, cut, shape⟩
      rcases Prod.mk.inj shape with ⟨rfl, rfl⟩
      rw [List.mem_cons, not_or]
      exact ⟨fun same => other (beq_iff_eq.mpr same.symm), inductionHypothesis cut⟩

/-- A cut at a mark loses the mark only. -/
theorem eq_append_of_cutAt? {mark : Char} {text before after : List Char}
    (found : cutAt? mark text = some (before, after)) : text = before ++ mark :: after := by
  rcases eq_append_of_cutWhere? found with ⟨other, same, whole⟩
  rw [whole, beq_iff_eq.mp same]

theorem cutAt?_eq_none_iff {mark : Char} {text : List Char} :
    cutAt? mark text = none ↔ mark ∉ text := by
  unfold cutAt?
  induction text with
  | nil => simp [cutWhere?]
  | cons c rest inductionHypothesis =>
    rw [cutWhere?, List.mem_cons, not_or, ← inductionHypothesis]
    by_cases same : c = mark
    · simp [same]
    · simp [same, Ne.symm same]

/-- The last occurrence of a mark begins the characters that are no mark. -/
theorem cutLastAt?_append_cons {mark : Char} {after : List Char} (free : mark ∉ after)
    (before : List Char) : cutLastAt? mark (before ++ mark :: after) = some (before, after) := by
  have turned : (before ++ mark :: after).reverse = after.reverse ++ mark :: before.reverse := by
    simp
  have freeTurned : mark ∉ after.reverse := fun member => free (List.mem_reverse.mp member)
  rw [cutLastAt?, turned, cutAt?_append_cons freeTurned]
  simp

/-- A cut at the last mark loses that mark only. -/
theorem eq_append_of_cutLastAt? {mark : Char} {text before after : List Char}
    (found : cutLastAt? mark text = some (before, after)) :
    text = before ++ mark :: after ∧ mark ∉ after := by
  rcases Option.map_eq_some_iff.mp found with ⟨parts, cut, shape⟩
  rcases Prod.mk.inj shape with ⟨rfl, rfl⟩
  have whole := congrArg List.reverse (eq_append_of_cutAt? cut)
  rw [List.reverse_reverse] at whole
  refine ⟨by simp [whole], fun member => ?_⟩
  exact not_mem_of_cutAt? cut (List.mem_reverse.mp member)

/-- A mark that does not stand in the last part of a text stands in front of it. -/
theorem exists_of_append_eq {mark : Char} {text rest before after : List Char} (free : mark ∉ rest)
    (whole : text ++ rest = before ++ mark :: after) :
    ∃ more, text = before ++ mark :: more ∧ after = more ++ rest := by
  rcases List.append_eq_append_iff.mp whole with ⟨more, -, behind⟩ | ⟨more, front, behind⟩
  · exact absurd (behind ▸ List.mem_append_right more List.mem_cons_self) free
  · cases more with
    | nil => exact absurd (List.nil_append rest ▸ behind ▸ List.mem_cons_self) free
    | cons c more =>
      rcases List.cons.inj behind with ⟨rfl, later⟩
      exact ⟨more, front, later⟩

/-! ## Places of a needle -/

/-- A needle begins behind all characters that differ from its first one. -/
theorem infix_append_iff_of_cons {first : Char} {others before after : List Char}
    (free : first ∉ before) :
    first :: others <:+: before ++ after ↔ first :: others <:+: after := by
  induction before with
  | nil => rfl
  | cons c before inductionHypothesis =>
    rw [List.mem_cons, not_or] at free
    rw [List.cons_append, List.infix_cons_iff, inductionHypothesis free.2, List.cons_prefix_cons]
    exact or_iff_right fun begins => free.1 begins.1

/-- A needle ends in front of all characters that differ from its last one. -/
theorem infix_append_iff_of_concat {last : Char} {others before after : List Char}
    (free : last ∉ after) :
    others ++ [last] <:+: before ++ after ↔ others ++ [last] <:+: before := by
  have turned : last ∉ after.reverse := fun member => free (List.mem_reverse.mp member)
  rw [← List.reverse_infix, ← @List.reverse_infix _ _ before, List.reverse_append,
    List.reverse_append]
  exact infix_append_iff_of_cons turned

/-- A text with the last character of a needle at its end may end with the needle. -/
theorem infix_concat_iff {last : Char} {others before : List Char} :
    others ++ [last] <:+: before ++ [last] ↔ others <:+ before ∨ others ++ [last] <:+: before := by
  rw [List.infix_concat_iff, List.suffix_append_self_iff]

/-- A needle without a mark stands on one side of it. -/
theorem infix_append_cons_iff {needle before after : List Char} {mark : Char}
    (apart : mark ∉ needle) :
    needle <:+: before ++ mark :: after ↔ needle <:+: before ∨ needle <:+: after := by
  constructor
  · rintro ⟨front, back, whole⟩
    rcases List.append_eq_append_iff.mp whole with ⟨rest, left, -⟩ | ⟨rest, left, behind⟩
    · exact Or.inl ⟨front, rest, left.symm⟩
    · cases rest with
      | nil =>
        rw [List.append_nil] at left
        exact Or.inl ⟨front, [], by rw [List.append_nil, left]⟩
      | cons c rest =>
        rcases List.cons.inj behind with ⟨rfl, rfl⟩
        have ends : needle <:+ before ++ mark :: rest := ⟨front, left⟩
        have marked : mark :: rest <:+ before ++ mark :: rest := List.suffix_append _ _
        rcases List.suffix_or_suffix_of_suffix ends marked with inner | outer
        · rcases List.suffix_cons_iff.mp inner with same | inner
          · exact absurd (same ▸ List.mem_cons_self) apart
          · exact Or.inr (inner.isInfix.trans (List.prefix_append _ _).isInfix)
        · exact absurd (outer.subset List.mem_cons_self) apart
  · rintro (held | held)
    · exact held.trans (List.prefix_append _ _).isInfix
    · exact held.trans ((List.suffix_cons _ _).trans (List.suffix_append _ _)).isInfix

/-! ## Cuts at a needle -/

theorem cut?_eq_none_iff {needle text : List Char} :
    cut? needle text = none ↔ ¬ needle <:+: text := by
  rw [← contains_iff, contains, Option.not_isSome_iff_eq_none]

theorem cut?_cons_of_stripStart?_eq_none {needle : List Char} {c : Char} {rest : List Char}
    (apart : stripStart? needle (c :: rest) = none) :
    cut? needle (c :: rest) = (cut? needle rest).map fun parts => (c :: parts.1, parts.2) := by
  rw [cut?, apart]

theorem cut?_append_self {needle : List Char} (nonempty : needle ≠ []) (after : List Char) :
    cut? needle (needle ++ after) = some ([], after) := by
  have stripped : stripStart? needle (needle ++ after) = some after :=
    stripStart?_eq_some_iff.mpr rfl
  cases needle with
  | nil => exact absurd rfl nonempty
  | cons c rest =>
    rw [List.cons_append] at stripped ⊢
    rw [cut?, stripped]

/-- The first occurrence of a needle is found if none begins before it.  One that begins before
it may reach into it, but not up to its last character. -/
theorem cut?_append {needle before : List Char} (nonempty : needle ≠ [])
    (free : ¬ needle <:+: before ++ needle.dropLast) (after : List Char) :
    cut? needle (before ++ (needle ++ after)) = some (before, after) := by
  induction before with
  | nil => exact cut?_append_self nonempty after
  | cons c before inductionHypothesis =>
    rw [List.cons_append, List.infix_cons_iff, not_or] at free
    have apart : stripStart? needle (c :: (before ++ (needle ++ after))) = none := by
      rw [stripStart?_eq_none_iff]
      intro begins
      have shorter : c :: (before ++ needle.dropLast) <+: c :: (before ++ (needle ++ after)) := by
        rw [List.cons_prefix_cons]
        refine ⟨rfl, (List.prefix_append_right_inj before).mpr ?_⟩
        exact needle.dropLast_prefix.trans (List.prefix_append needle after)
      refine free.1 (List.prefix_of_prefix_length_le begins shorter ?_)
      simp only [List.length_cons, List.length_append, List.length_dropLast]
      omega
    rw [List.cons_append, cut?_cons_of_stripStart?_eq_none apart, inductionHypothesis free.2]
    rfl

/-- Nothing before the place of a cut is an occurrence of the needle. -/
theorem not_infix_of_cut? {needle text before after : List Char} (nonempty : needle ≠ [])
    (found : cut? needle text = some (before, after)) : ¬ needle <:+: before := by
  induction text generalizing before with
  | nil => simp [cut?, nonempty] at found
  | cons c rest inductionHypothesis =>
    cases stripped : stripStart? needle (c :: rest) with
    | some behind =>
      rw [cut?, stripped] at found
      have shape : [] = before := (Prod.mk.inj (Option.some.inj found)).1
      rw [← shape, List.infix_nil]
      exact nonempty
    | none =>
      rw [cut?_cons_of_stripStart?_eq_none stripped] at found
      rcases Option.map_eq_some_iff.mp found with ⟨parts, cut, shape⟩
      rcases Prod.mk.inj shape with ⟨rfl, rfl⟩
      rw [List.infix_cons_iff, not_or]
      refine ⟨?_, inductionHypothesis cut⟩
      rintro ⟨behind, begins⟩
      have whole : c :: rest = needle ++ (behind ++ needle ++ parts.2) := by
        rw [eq_append_of_cut? cut, ← List.append_assoc, ← List.append_assoc, begins]
        simp
      rw [stripStart?_eq_some_iff.mpr whole] at stripped
      cases stripped

/-- A needle is found behind a text that it is no part of, if a character apart from the needle
ends that text. -/
theorem cut?_append_cons {needle front : List Char} {c : Char} (apart : c ∉ needle)
    (free : ¬ needle <:+: front) (text : List Char) :
    cut? needle (front ++ c :: text) =
      (cut? needle text).map fun parts => (front ++ c :: parts.1, parts.2) := by
  induction front with
  | nil =>
    have other : stripStart? needle (c :: text) = none := by
      rw [stripStart?_eq_none_iff]
      intro begins
      cases needle with
      | nil => exact free List.nil_infix
      | cons first others => exact apart ((List.cons_prefix_cons.mp begins).1 ▸ List.mem_cons_self)
    exact cut?_cons_of_stripStart?_eq_none other
  | cons first others inductionHypothesis =>
    rw [List.infix_cons_iff, not_or] at free
    have other : stripStart? needle (first :: (others ++ c :: text)) = none := by
      rw [stripStart?_eq_none_iff, ← List.cons_append]
      intro begins
      rcases List.prefix_or_prefix_of_prefix begins (List.prefix_append (first :: others) _) with
        within | ⟨rest, rfl⟩
      · exact free.1 within
      · have behind := (List.prefix_append_right_inj _).mp begins
        cases rest with
        | nil => exact free.1 (by simp)
        | cons d rest =>
          obtain rfl := (List.cons_prefix_cons.mp behind).1
          exact apart (by simp)
    rw [List.cons_append, cut?_cons_of_stripStart?_eq_none other, inductionHypothesis free.2,
      Option.map_map]
    rfl

/-- What stands behind the place of a cut does not move it. -/
theorem cut?_append_right {needle text before after : List Char}
    (found : cut? needle text = some (before, after)) (more : List Char) :
    cut? needle (text ++ more) = some (before, after ++ more) := by
  induction text generalizing before with
  | nil =>
    cases needle with
    | nil =>
      obtain ⟨rfl, rfl⟩ := Prod.mk.inj (Option.some.inj found)
      cases more <;> rfl
    | cons c others => cases found
  | cons c rest inductionHypothesis =>
    cases stripped : stripStart? needle (c :: rest) with
    | some behind =>
      rw [cut?, stripped] at found
      obtain ⟨rfl, rfl⟩ := Prod.mk.inj (Option.some.inj found)
      have longer : stripStart? needle (c :: rest ++ more) = some (behind ++ more) := by
        rw [stripStart?_eq_some_iff, stripStart?_eq_some_iff.mp stripped, List.append_assoc]
      rw [List.cons_append] at longer ⊢
      rw [cut?, longer]
    | none =>
      rw [cut?_cons_of_stripStart?_eq_none stripped] at found
      obtain ⟨parts, cut, shape⟩ := Option.map_eq_some_iff.mp found
      obtain ⟨rfl, rfl⟩ := Prod.mk.inj shape
      have longer : stripStart? needle (c :: (rest ++ more)) = none := by
        rw [stripStart?_eq_none_iff] at stripped ⊢
        intro begins
        -- The needle occurs in the rest, so it is no longer than the text.
        have length := congrArg List.length (eq_append_of_cut? cut)
        refine stripped (List.prefix_of_prefix_length_le begins
          (List.prefix_append (c :: rest) more) ?_)
        simp only [List.length_append, List.length_cons] at length ⊢
        omega
      rw [List.cons_append, cut?_cons_of_stripStart?_eq_none longer, inductionHypothesis cut]
      rfl

/-- No occurrence of a needle stands before the place of a cut, so every other one is followed by
an end of what follows this one. -/
theorem suffix_of_cut? {needle before after before' after' : List Char} (nonempty : needle ≠ [])
    (found : cut? needle (before' ++ (needle ++ after')) = some (before, after)) :
    after' <:+ after := by
  induction before' generalizing before with
  | nil =>
    rw [List.nil_append, cut?_append_self nonempty] at found
    rw [(Prod.mk.inj (Option.some.inj found)).2]
  | cons c others inductionHypothesis =>
    cases stripped : stripStart? needle (c :: (others ++ (needle ++ after'))) with
    | none =>
      rw [List.cons_append, cut?_cons_of_stripStart?_eq_none stripped] at found
      rcases Option.map_eq_some_iff.mp found with ⟨⟨front, behind⟩, cut, shape⟩
      rcases Prod.mk.inj shape with ⟨-, rfl⟩
      exact inductionHypothesis cut
    | some behind =>
      rw [List.cons_append, cut?, stripped] at found
      have same : behind = after := (Prod.mk.inj (Option.some.inj found)).2
      have whole := stripStart?_eq_some_iff.mp stripped
      rw [same] at whole
      have inner : after' <:+ needle ++ after := by
        rw [← whole]
        exact (List.suffix_append needle after').trans
          ((List.suffix_append others _).trans (List.suffix_cons c _))
      refine List.suffix_of_suffix_length_le inner (List.suffix_append needle after) ?_
      have lengths := congrArg List.length whole
      simp only [List.length_cons, List.length_append] at lengths
      omega

/-- An occurrence cannot begin in front of a needle whose first character stands only at its
start. -/
theorem not_infix_append_dropLast {first : Char} {others before : List Char}
    (once : first ∉ others) (free : ¬ first :: others <:+: before) :
    ¬ first :: others <:+: before ++ (first :: others).dropLast := by
  induction before with
  | nil =>
    intro held
    have longer := held.length_le
    simp only [List.nil_append, List.length_dropLast, List.length_cons] at longer
    omega
  | cons c before inductionHypothesis =>
    rw [List.infix_cons_iff, not_or] at free
    rw [List.cons_append, List.infix_cons_iff, not_or]
    refine ⟨?_, inductionHypothesis free.2⟩
    intro begins
    have inner : c :: before <+: first :: others ∨ first :: others <+: c :: before :=
      List.prefix_or_prefix_of_prefix (List.prefix_append _ _) begins
    rcases inner with ⟨rest, whole⟩ | held
    · rcases List.cons.inj whole with ⟨rfl, same⟩
      rcases same with rfl
      have behind : rest <+: (c :: (before ++ rest)).dropLast :=
        (List.prefix_append_right_inj (c :: before)).mp begins
      cases rest with
      | nil => exact free.1 ⟨[], by simp⟩
      | cons next rest =>
        -- The rest of the needle begins where the second needle does.
        have same : next = c := by
          rw [List.dropLast_cons_of_ne_nil (by simp)] at behind
          exact (List.cons_prefix_cons.mp behind).1
        exact once (by simp [same])
    · exact free.1 held

end Text
end Routebook
