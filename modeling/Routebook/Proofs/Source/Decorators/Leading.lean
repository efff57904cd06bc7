import Routebook.Proofs.Source.Decorators
import Routebook.Proofs.Text.Class

namespace Routebook

/-!
# The leading decorators of a line

Decorators stand at the start of a line one behind the other, each with the blanks behind it.  A
run of them can be cut short inside a name, in front of arguments or among blanks, but no other
decorator follows there, since it would begin with an at sign.  So one of the runs at the start of
a line holds all others, and the declaration begins behind it: `isLongestRun_splitDecorators`.

A line may also end inside the arguments of a decorator.  The declaration of such a decorator
stands on a line further below, and nothing of this line is one:
`splitDecorators_of_endsInArguments`.
-/

/-- A decorator with the blanks behind it.  The name may be empty, and there need not be arguments. -/
structure LeadingDecorator where
  name : List Char
  arguments : List Char
  blanks : List Char
  named : ∀ c ∈ name, isDecoratorNameChar c = true
  enclosed : arguments = [] ∨ IsEnclosed arguments
  blank : ∀ c ∈ blanks, Text.isBlank c = true

namespace LeadingDecorator

/-- The text of a decorator and of its blanks. -/
def text (decorator : LeadingDecorator) : List Char :=
  '@' :: (decorator.name ++ (decorator.arguments ++ decorator.blanks))

/-- The text of decorators that stand one behind the other. -/
def runText (decorators : List LeadingDecorator) : List Char :=
  decorators.flatMap text

end LeadingDecorator

open LeadingDecorator

/-- The line ends inside the arguments of one of its leading decorators. -/
def EndsInArguments (line : List Char) : Prop :=
  ∃ (decorators : List LeadingDecorator) (name arguments : List Char),
    (∀ c ∈ name, isDecoratorNameChar c = true) ∧ IsUnclosed arguments ∧
      line = runText decorators ++ '@' :: (name ++ arguments)

/-- The run of decorators at the start of the line that holds all others. -/
structure IsLongestRun (line run : List Char) : Prop where
  decorated : ∃ decorators, run = runText decorators
  begins : run <+: line
  longest : ∀ decorators, runText decorators <+: line → runText decorators <+: run

/-! ## One decorator -/

theorem isDecoratorNameChar_of_isBlank {c : Char} (blank : Text.isBlank c = true) :
    isDecoratorNameChar c = false := by
  have other := Text.isNameChar_of_isBlank blank
  rw [Text.isNameChar, Bool.or_eq_false_iff] at other
  have point : c ≠ '.' := by
    rintro rfl
    exact absurd blank (by decide)
  rw [isDecoratorNameChar, other.1, other.2, beq_eq_false_iff_ne.mpr point]
  rfl

namespace LeadingDecorator

/-- What stands behind a decorator without arguments is neither more of its name nor the
beginning of arguments. -/
def EndsAt (decorator : LeadingDecorator) (rest : List Char) : Prop :=
  decorator.arguments = [] → ∀ c, (decorator.blanks ++ rest).head? = some c →
    isDecoratorNameChar c = false ∧ c ≠ '('

variable {decorator : LeadingDecorator} {rest : List Char}

/-- Every decorator ends at a blank. -/
theorem endsAt_of_blanks_ne_nil (filled : decorator.blanks ≠ []) : decorator.EndsAt rest := by
  intro _ c first
  have blank : Text.isBlank c = true := by
    rw [List.head?_append_of_ne_nil _ filled] at first
    exact decorator.blank c (List.mem_of_head? first)
  refine ⟨isDecoratorNameChar_of_isBlank blank, ?_⟩
  rintro rfl
  exact absurd blank (by decide)

/-- Every decorator ends at the at sign of the next one. -/
theorem endsAt_of_head?_eq_at (next : rest.head? = some '@') : decorator.EndsAt rest := by
  by_cases filled : decorator.blanks = []
  · intro _ c first
    rw [filled, List.nil_append, next] at first
    rcases first with ⟨⟩
    decide
  · exact endsAt_of_blanks_ne_nil filled

theorem takeDecorator?_text (ends : decorator.EndsAt rest) :
    takeDecorator? (decorator.name ++ (decorator.arguments ++ (decorator.blanks ++ rest))) =
      some (decorator.name ++ decorator.arguments, decorator.blanks ++ rest) := by
  rcases decorator.enclosed with bare | enclosed
  · rw [bare, List.nil_append, List.append_nil]
    exact takeDecorator?_of_ends decorator.named (ends bare)
  · have opens : (decorator.arguments ++ (decorator.blanks ++ rest)).head? = some '(' := by
      rw [List.head?_append, enclosed.opens]
      rfl
    rw [takeDecorator?_of_opens decorator.named opens, closeParens_of_isEnclosed enclosed]
    rfl

/-- A decorator is split off together with all blanks behind it. -/
theorem splitDecorators_text (ends : decorator.EndsAt rest) :
    splitDecorators (decorator.text ++ rest) =
      let others := splitDecorators (rest.dropWhile Text.isBlank)
      (decorator.text ++ rest.takeWhile Text.isBlank ++ others.1, others.2) := by
  have shape : decorator.text ++ rest =
      '@' :: (decorator.name ++ (decorator.arguments ++ (decorator.blanks ++ rest))) := by
    simp [text]
  rw [shape, splitDecorators_at, takeDecorator?_text ends]
  dsimp only
  rw [List.takeWhile_append_of_pos decorator.blank, List.dropWhile_append_of_pos decorator.blank]
  simp [text]

/-- A decorator is split off alone where no further blank follows. -/
theorem splitDecorators_solid (ends : decorator.EndsAt rest)
    (solid : ∀ c, rest.head? = some c → Text.isBlank c = false) :
    splitDecorators (decorator.text ++ rest) =
      (decorator.text ++ (splitDecorators rest).1, (splitDecorators rest).2) := by
  have none : ∀ c ∈ ([] : List Char), Text.isBlank c = true := nofun
  have span := Text.span_append none solid
  rw [List.nil_append] at span
  rw [splitDecorators_text ends]
  dsimp only
  rw [span.1, span.2, List.append_nil]

theorem splitDecorators_before (next : rest.head? = some '@') :
    splitDecorators (decorator.text ++ rest) =
      (decorator.text ++ (splitDecorators rest).1, (splitDecorators rest).2) := by
  apply splitDecorators_solid (endsAt_of_head?_eq_at next)
  intro c first
  rw [next] at first
  rcases first with ⟨⟩
  decide

/-- Nothing of a name is left behind, however it goes on. -/
theorem isPrefix_of_takeDecorator? {name : List Char}
    (named : ∀ c ∈ name, isDecoratorNameChar c = true) {parts : List Char × List Char}
    (taken : takeDecorator? (name ++ rest) = some parts) : name <+: parts.1 := by
  rw [takeDecorator?_eq, List.takeWhile_append_of_pos named] at taken
  dsimp only at taken
  split at taken
  · rcases Option.map_eq_some_iff.mp taken with ⟨arguments, _, rfl⟩
    rw [List.append_assoc]
    exact List.prefix_append _ _
  · rw [← Option.some.inj taken]
    exact List.prefix_append _ _

/-- Of a decorator at the start of a line everything is split off, also where the name goes on or
arguments follow. -/
theorem text_isPrefix (decorator : LeadingDecorator) (rest : List Char) :
    decorator.text <+: (splitDecorators (decorator.text ++ rest)).1 := by
  by_cases ends : decorator.EndsAt rest
  · rw [splitDecorators_text ends]
    dsimp only
    rw [List.append_assoc]
    exact List.prefix_append _ _
  · -- The name goes on or arguments follow, and what is read begins with the decorator.
    have bare : decorator.arguments = [] := by
      by_contra more
      exact ends fun none => absurd none more
    have solid : decorator.blanks = [] := by
      by_contra filled
      exact ends (endsAt_of_blanks_ne_nil filled)
    have shape : decorator.text = '@' :: decorator.name := by simp [text, bare, solid]
    rw [shape, List.cons_append, splitDecorators_at]
    cases taken : takeDecorator? (decorator.name ++ rest) with
    | none => exact List.prefix_append ('@' :: decorator.name) rest
    | some parts =>
      rcases isPrefix_of_takeDecorator? decorator.named taken with ⟨more, whole⟩
      dsimp only
      rw [← whole]
      exact ⟨more ++ parts.2.takeWhile Text.isBlank ++
        (splitDecorators (parts.2.dropWhile Text.isBlank)).1, by simp⟩

/-! ## Runs -/

theorem runText_cons (decorator : LeadingDecorator) (others : List LeadingDecorator) :
    runText (decorator :: others) = decorator.text ++ runText others :=
  List.flatMap_cons

/-- In front of an at sign, a run begins with one, and so does the empty run. -/
theorem head?_runText_append (decorators : List LeadingDecorator) {rest : List Char}
    (next : rest.head? = some '@') : (runText decorators ++ rest).head? = some '@' := by
  cases decorators with
  | nil => exact next
  | cons decorator others => rw [runText_cons]; rfl

/-- Of a run at the start of a line everything is split off. -/
theorem runText_isPrefix (decorators : List LeadingDecorator) (rest : List Char) :
    runText decorators <+: (splitDecorators (runText decorators ++ rest)).1 := by
  induction decorators with
  | nil => exact List.nil_prefix
  | cons decorator others inductionHypothesis =>
    rw [runText_cons, List.append_assoc]
    cases others with
    | nil =>
      rw [runText, List.flatMap_nil, List.append_nil, List.nil_append]
      exact decorator.text_isPrefix rest
    | cons next others =>
      have sign : (runText (next :: others) ++ rest).head? = some '@' := by
        rw [runText_cons]
        rfl
      rw [splitDecorators_before sign]
      exact (List.prefix_append_right_inj _).mpr inductionHypothesis

end LeadingDecorator

theorem splitDecorators_of_isUnclosed {name arguments : List Char}
    (named : ∀ c ∈ name, isDecoratorNameChar c = true) (unclosed : IsUnclosed arguments) :
    splitDecorators ('@' :: (name ++ arguments)) = ('@' :: (name ++ arguments), []) := by
  rw [splitDecorators_at, takeDecorator?_of_opens named unclosed.opens,
    closeParens_of_isUnclosed unclosed]
  rfl

/-- A line that ends inside arguments is split behind its last character. -/
theorem splitDecorators_of_endsInArguments {line : List Char} (ends : EndsInArguments line) :
    splitDecorators line = (line, []) := by
  rcases ends with ⟨decorators, name, arguments, named, unclosed, rfl⟩
  induction decorators with
  | nil => exact splitDecorators_of_isUnclosed named unclosed
  | cons decorator others inductionHypothesis =>
    rw [runText_cons, List.append_assoc, splitDecorators_before, inductionHypothesis]
    exact head?_runText_append others rfl

/-! ## Splitting -/

/-- A name and arguments are a decorator together with all blanks behind them. -/
theorem exists_decorator {name arguments behind : List Char}
    (named : ∀ c ∈ name, isDecoratorNameChar c = true)
    (enclosed : arguments = [] ∨ IsEnclosed arguments)
    (ends : arguments = [] → ∀ c, behind.head? = some c →
      isDecoratorNameChar c = false ∧ c ≠ '(') :
    ∃ (decorator : LeadingDecorator) (rest : List Char),
      '@' :: (name ++ (arguments ++ behind)) = decorator.text ++ rest ∧ decorator.EndsAt rest ∧
        ∀ c, rest.head? = some c → Text.isBlank c = false := by
  rcases Text.exists_span Text.isBlank behind with ⟨blanks, rest, rfl, blank, solid, -, -⟩
  exact ⟨⟨name, arguments, blanks, named, enclosed, blank⟩, rest, by simp [text], ends, solid⟩

/-- Behind an at sign there are arguments that the line does not close, or a decorator. -/
theorem unclosed_or_decorator {line : List Char} (sign : line.head? = some '@') :
    (∃ name arguments, (∀ c ∈ name, isDecoratorNameChar c = true) ∧ IsUnclosed arguments ∧
      line = '@' :: (name ++ arguments)) ∨
    ∃ (decorator : LeadingDecorator) (rest : List Char), line = decorator.text ++ rest ∧
      decorator.EndsAt rest ∧ ∀ c, rest.head? = some c → Text.isBlank c = false := by
  rcases List.head?_eq_some_iff.mp sign with ⟨text, rfl⟩
  rcases Text.exists_span isDecoratorNameChar text with ⟨name, rest, rfl, named, stop, -, -⟩
  by_cases opens : rest.head? = some '('
  · rcases List.head?_eq_some_iff.mp opens with ⟨inside, rfl⟩
    cases found : closeParens 0 ('(' :: inside) with
    | none => exact Or.inl ⟨name, _, named, isUnclosed_of_closeParens found, rfl⟩
    | some parts =>
      have enclosed := isEnclosed_of_closeParens found
      rw [eq_append_of_closeParens found]
      right
      apply exists_decorator named (Or.inr enclosed)
      intro bare
      rw [bare] at enclosed
      exact nomatch enclosed.opens
  · right
    rw [← List.nil_append rest]
    apply exists_decorator named (Or.inl rfl)
    intro _ c first
    exact ⟨stop c first, fun same => opens (same ▸ first)⟩

/-- A line is split in three ways: it has no decorator in front, it ends inside the arguments of
the first one, or the first one is split off and the rest of the line is split on. -/
theorem splitDecorators_induction {motive : List Char → List Char × List Char → Prop}
    (plain : ∀ line, line.head? ≠ some '@' → motive line ([], line))
    (unclosed : ∀ name arguments, (∀ c ∈ name, isDecoratorNameChar c = true) →
      IsUnclosed arguments →
        motive ('@' :: (name ++ arguments)) ('@' :: (name ++ arguments), []))
    (decorated : ∀ (decorator : LeadingDecorator) rest, motive rest (splitDecorators rest) →
      motive (decorator.text ++ rest)
        (decorator.text ++ (splitDecorators rest).1, (splitDecorators rest).2))
    (line : List Char) : motive line (splitDecorators line) := by
  induction length : line.length using Nat.strong_induction_on generalizing line with
  | _ count inductionHypothesis =>
    by_cases sign : line.head? = some '@'
    · rcases unclosed_or_decorator sign with
        ⟨name, arguments, named, opened, rfl⟩ | ⟨decorator, rest, rfl, ends, solid⟩
      · rw [splitDecorators_of_isUnclosed named opened]
        exact unclosed name arguments named opened
      · have shorter : rest.length < count := by
          simp only [← length, text, List.length_append, List.length_cons]
          omega
        rw [splitDecorators_solid ends solid]
        exact decorated decorator rest (inductionHypothesis _ shorter rest rfl)
    · rw [splitDecorators_of_head?_ne sign]
      exact plain line sign

/-- Splitting loses nothing. -/
theorem splitDecorators_append (line : List Char) :
    (splitDecorators line).1 ++ (splitDecorators line).2 = line := by
  apply splitDecorators_induction (motive := fun line parts => parts.1 ++ parts.2 = line)
  · intro line _
    rfl
  · intro name arguments _ _
    exact List.append_nil _
  · intro decorator rest whole
    rw [List.append_assoc, whole]

theorem head?_declaration_ne (line : List Char) : (splitDecorators line).2.head? ≠ some '@' := by
  apply splitDecorators_induction (motive := fun _ parts => parts.2.head? ≠ some '@')
  · intro line plain
    exact plain
  · intro name arguments _ _
    exact nofun
  · intro decorator rest plain
    exact plain

/-- What is split off is a run of decorators unless the line ends inside arguments. -/
theorem exists_runText (line : List Char) :
    EndsInArguments line ∨ ∃ decorators, (splitDecorators line).1 = runText decorators := by
  apply splitDecorators_induction (motive := fun line parts =>
    EndsInArguments line ∨ ∃ decorators, parts.1 = runText decorators)
  · intro line _
    exact Or.inr ⟨[], rfl⟩
  · intro name arguments named unclosed
    exact Or.inl ⟨[], name, arguments, named, unclosed, rfl⟩
  · rintro decorator rest (⟨others, name, arguments, named, unclosed, whole⟩ | ⟨others, run⟩)
    · left
      refine ⟨decorator :: others, name, arguments, named, unclosed, ?_⟩
      rw [runText_cons, List.append_assoc, ← whole]
    · right
      refine ⟨decorator :: others, ?_⟩
      rw [runText_cons, ← run]

/-- The declaration begins behind the longest run of decorators. -/
theorem isLongestRun_splitDecorators {line : List Char} (closed : ¬ EndsInArguments line) :
    IsLongestRun line (splitDecorators line).1 where
  decorated := (exists_runText line).resolve_left closed
  begins := ⟨(splitDecorators line).2, splitDecorators_append line⟩
  longest := by
    rintro decorators ⟨rest, rfl⟩
    exact runText_isPrefix decorators rest

end Routebook
