import Mathlib.Data.List.Infix
import Routebook.Proofs.Text.Pieces
import Routebook.Source.Decorator

namespace Routebook

/-!
# Decorators over several lines

The arguments of a decorator are enclosed when their first parenthesis is closed by their last
character only, which is where the counter of open parentheses is zero again: `Closing`.  Such a
decorator leaves nothing behind it, and neither does the beginning of one at a line end, where the
parenthesis is still open.  On the lines below, the open parentheses are counted line by line, and
none is left exactly where the decorator ends.
-/

/-! ## Balances -/

theorem parenBalance_append (front rest : List Char) :
    parenBalance (front ++ rest) = parenBalance front + parenBalance rest := by
  simp only [parenBalance, List.count_append, Int.natCast_add]
  omega

theorem parenBalance_cons (c : Char) (rest : List Char) :
    parenBalance (c :: rest) = parenBalance [c] + parenBalance rest :=
  parenBalance_append [c] rest

theorem parenBalance_of_plain {text : List Char} (plain : ∀ c ∈ text, c ≠ '(' ∧ c ≠ ')') :
    parenBalance text = 0 := by
  have opens : '(' ∉ text := fun member => (plain _ member).1 rfl
  have closes : ')' ∉ text := fun member => (plain _ member).2 rfl
  rw [parenBalance, List.count_eq_zero_of_not_mem opens, List.count_eq_zero_of_not_mem closes]
  rfl

theorem parenBalance_singleton_of_ne {c : Char} (opens : c ≠ '(') (closes : c ≠ ')') :
    parenBalance [c] = 0 := by
  apply parenBalance_of_plain
  intro other member
  rw [List.mem_singleton.mp member]
  exact ⟨opens, closes⟩

/-! ## Closing -/

/-- How a text closes a number of open parentheses. -/
inductive Closing (balance : Int) (text : List Char) : Option (List Char × List Char) → Prop
  /-- No front of the text has closed all of them. -/
  | never (inner : ∀ front, front <+: text → 0 < balance + parenBalance front) :
      Closing balance text none
  /-- The arguments have closed all of them, and no shorter front has. -/
  | first {arguments rest : List Char} (closed : balance + parenBalance arguments = 0)
      (inner : ∀ front, front <+: arguments → front ≠ arguments →
        0 < balance + parenBalance front) :
      Closing balance text (some (arguments, rest))

theorem Closing.cons {balance next : Int} (deep : 0 < balance) {c : Char}
    (same : next = balance + parenBalance [c]) {rest : List Char}
    {found : Option (List Char × List Char)} (closing : Closing next rest found) :
    Closing balance (c :: rest) (found.map fun parts => (c :: parts.1, parts.2)) := by
  have zero : parenBalance [] = 0 := rfl
  cases closing with
  | never inner =>
    apply never
    intro front begins
    rcases List.prefix_cons_iff.mp begins with rfl | ⟨inside, rfl, within⟩
    · omega
    · have here := inner inside within
      rw [parenBalance_cons]
      omega
  | first closed inner =>
    apply first
    · dsimp only
      rw [parenBalance_cons]
      omega
    · intro front begins proper
      rcases List.prefix_cons_iff.mp begins with rfl | ⟨inside, rfl, within⟩
      · omega
      · have here := inner inside within fun whole => proper (by rw [whole])
        rw [parenBalance_cons]
        omega

/-- Open parentheses are closed as soon as a text closes them. -/
theorem closing_closeParens {depth : Nat} (deep : 0 < depth) (text : List Char) :
    Closing depth text (closeParens depth text) := by
  induction text generalizing depth with
  | nil =>
    apply Closing.never
    intro front begins
    have zero : parenBalance [] = 0 := rfl
    rw [List.prefix_nil.mp begins]
    omega
  | cons c rest inductionHypothesis =>
    have positive : 0 < (depth : Int) := Int.natCast_pos.mpr deep
    rw [closeParens]
    split
    next opens =>
      have one : parenBalance [c] = 1 := by rw [beq_iff_eq.mp opens]; decide
      exact (inductionHypothesis (Nat.succ_pos depth)).cons positive (by omega)
    next plain =>
      split
      next closes =>
        have one : parenBalance [c] = -1 := by rw [beq_iff_eq.mp closes]; decide
        split
        next last =>
          apply Closing.first
          · omega
          · intro front begins proper
            have zero : parenBalance [] = 0 := rfl
            rcases List.prefix_cons_iff.mp begins with rfl | ⟨inside, rfl, within⟩
            · omega
            · exact absurd (by rw [List.prefix_nil.mp within]) proper
        next more =>
          exact (inductionHypothesis (by omega)).cons positive (by omega)
      next other =>
        have none := parenBalance_singleton_of_ne (by simpa using plain) (by simpa using other)
        exact (inductionHypothesis deep).cons positive (by omega)

/-- A text in which the given number of parentheses is never closed. -/
theorem closeParens_eq_none {depth : Nat} {text : List Char}
    (inner : ∀ front, front <+: text → 0 < depth + parenBalance front) :
    closeParens depth text = none := by
  have zero : parenBalance [] = 0 := rfl
  have deep : 0 < depth := by
    have here := inner [] List.nil_prefix
    omega
  have closing := closing_closeParens deep text
  cases found : closeParens depth text with
  | none => rfl
  | some parts =>
    rw [found] at closing
    rcases closing with _ | ⟨closed, -⟩
    have here := inner _ (eq_append_of_closeParens found ▸ List.prefix_append _ _)
    omega

/-- A text that closes the given number of parentheses with its last character is cut off from
what follows it. -/
theorem closeParens_append {depth : Nat} (deep : 0 < depth) {arguments : List Char}
    (inner : ∀ front, front <+: arguments → front ≠ arguments → 0 < depth + parenBalance front)
    (closed : depth + parenBalance arguments = 0) (rest : List Char) :
    closeParens depth (arguments ++ rest) = some (arguments, rest) := by
  have closing := closing_closeParens deep (arguments ++ rest)
  cases found : closeParens depth (arguments ++ rest) with
  | none =>
    rw [found] at closing
    rcases closing with ⟨open'⟩
    have here := open' arguments (List.prefix_append _ _)
    omega
  | some parts =>
    rcases parts with ⟨arguments', rest'⟩
    rw [found] at closing
    rcases closing with _ | ⟨closed', inner'⟩
    have parted := eq_append_of_closeParens found
    -- Neither of the two texts ends in front of the other.
    have same : arguments' = arguments := by
      by_contra differ
      rcases List.prefix_or_prefix_of_prefix (List.prefix_append arguments rest)
        (parted ▸ List.prefix_append arguments' rest') with shorter | longer
      · have here := inner' arguments shorter (Ne.symm differ)
        omega
      · have here := inner arguments' longer differ
        omega
    rw [← same] at parted ⊢
    rw [List.append_cancel_left parted]

/-! ## Enclosed texts -/

/-- A text whose first parenthesis is closed by its last character only. -/
structure IsEnclosed (text : List Char) : Prop where
  opens : text.head? = some '('
  inner : ∀ front, front <+: text → front ≠ [] → front ≠ text → 0 < parenBalance front
  closed : parenBalance text = 0

/-- A text whose first parenthesis is not closed. -/
structure IsUnclosed (text : List Char) : Prop where
  opens : text.head? = some '('
  inner : ∀ front, front <+: text → front ≠ [] → 0 < parenBalance front

theorem isEnclosed_iff {text : List Char} : IsEnclosed text ↔
    text.head? = some '(' ∧
      (∀ front ∈ text.inits, front ≠ [] → front ≠ text → 0 < parenBalance front) ∧
      parenBalance text = 0 := by
  constructor
  · intro enclosed
    refine ⟨enclosed.opens, fun front member => ?_, enclosed.closed⟩
    exact enclosed.inner front ((List.mem_inits front text).mp member)
  · rintro ⟨opens, inner, closed⟩
    exact ⟨opens, fun front begins => inner front ((List.mem_inits front text).mpr begins), closed⟩

instance (text : List Char) : Decidable (IsEnclosed text) :=
  decidable_of_iff _ isEnclosed_iff.symm

theorem closeParens_open (inside : List Char) :
    closeParens 0 ('(' :: inside) =
      (closeParens 1 inside).map fun parts => ('(' :: parts.1, parts.2) := by
  rw [closeParens, if_pos (beq_self_eq_true '(')]

/-- An enclosed text is cut off from what follows it. -/
theorem closeParens_of_isEnclosed {arguments : List Char} (enclosed : IsEnclosed arguments)
    (rest : List Char) : closeParens 0 (arguments ++ rest) = some (arguments, rest) := by
  rcases List.head?_eq_some_iff.mp enclosed.opens with ⟨inside, rfl⟩
  have one : parenBalance ['('] = 1 := by decide
  have closed := enclosed.closed
  rw [parenBalance_cons] at closed
  rw [List.cons_append, closeParens_open, closeParens_append Nat.one_pos]
  · rfl
  · intro front begins proper
    have here := enclosed.inner ('(' :: front) (List.cons_prefix_cons.mpr ⟨rfl, begins⟩)
      (List.cons_ne_nil _ _) fun whole => proper (List.cons.inj whole).2
    rw [parenBalance_cons] at here
    omega
  · omega

theorem closeParens_of_isUnclosed {arguments : List Char} (unclosed : IsUnclosed arguments) :
    closeParens 0 arguments = none := by
  rcases List.head?_eq_some_iff.mp unclosed.opens with ⟨inside, rfl⟩
  have one : parenBalance ['('] = 1 := by decide
  rw [closeParens_open, closeParens_eq_none]
  · rfl
  · intro front begins
    have here := unclosed.inner ('(' :: front) (List.cons_prefix_cons.mpr ⟨rfl, begins⟩)
      (List.cons_ne_nil _ _)
    rw [parenBalance_cons] at here
    omega

/-- What is cut off at the parenthesis that closes the first one is enclosed. -/
theorem isEnclosed_of_closeParens {inside arguments rest : List Char}
    (found : closeParens 0 ('(' :: inside) = some (arguments, rest)) : IsEnclosed arguments := by
  have one : parenBalance ['('] = 1 := by decide
  rw [closeParens_open] at found
  rcases Option.map_eq_some_iff.mp found with ⟨⟨within, behind⟩, inner, shape⟩
  rcases Prod.mk.inj shape with ⟨rfl, -⟩
  have closing := closing_closeParens Nat.one_pos inside
  rw [inner] at closing
  rcases closing with _ | ⟨closed, above⟩
  refine ⟨rfl, ?_, ?_⟩
  · intro front begins filled proper
    rcases List.prefix_cons_iff.mp begins with rfl | ⟨front, rfl, shorter⟩
    · exact absurd rfl filled
    · have here := above front shorter fun whole => proper (by rw [whole])
      rw [parenBalance_cons]
      omega
  · dsimp only
    rw [parenBalance_cons]
    omega

theorem isUnclosed_of_closeParens {inside : List Char}
    (found : closeParens 0 ('(' :: inside) = none) : IsUnclosed ('(' :: inside) := by
  have one : parenBalance ['('] = 1 := by decide
  rw [closeParens_open, Option.map_eq_none_iff] at found
  have closing := closing_closeParens Nat.one_pos inside
  rw [found] at closing
  rcases closing with ⟨above⟩
  refine ⟨rfl, ?_⟩
  intro front begins filled
  rcases List.prefix_cons_iff.mp begins with rfl | ⟨front, rfl, within⟩
  · exact absurd rfl filled
  · have here := above front within
    rw [parenBalance_cons]
    omega

/-! ## Lines of a decorator -/

theorem takeDecorator?_eq (text : List Char) :
    takeDecorator? text =
      let name := text.takeWhile isDecoratorNameChar
      let rest := text.dropWhile isDecoratorNameChar
      if rest.head? = some '(' then
        (closeParens 0 rest).map fun parts => (name ++ parts.1, parts.2)
      else some (name, rest) := by
  rw [takeDecorator?]
  dsimp only
  split
  next inside begins => rw [begins, if_pos (List.head?_cons)]
  next other =>
    rw [if_neg]
    intro opens
    rcases List.head?_eq_some_iff.mp opens with ⟨inside, begins⟩
    exact other inside begins

/-- In front of a parenthesis a name is at its end. -/
theorem takeDecorator?_of_opens {name rest : List Char}
    (named : ∀ c ∈ name, isDecoratorNameChar c = true) (opens : rest.head? = some '(') :
    takeDecorator? (name ++ rest) =
      (closeParens 0 rest).map fun parts => (name ++ parts.1, parts.2) := by
  have stop : ∀ c, rest.head? = some c → isDecoratorNameChar c = false := by
    intro c first
    rw [opens] at first
    rcases first with ⟨⟩
    decide
  have span := Text.span_append named stop
  rw [takeDecorator?_eq, span.1, span.2]
  exact if_pos opens

/-- A decorator without arguments is its name. -/
theorem takeDecorator?_of_ends {name rest : List Char}
    (named : ∀ c ∈ name, isDecoratorNameChar c = true)
    (ends : ∀ c, rest.head? = some c → isDecoratorNameChar c = false ∧ c ≠ '(') :
    takeDecorator? (name ++ rest) = some (name, rest) := by
  have span := Text.span_append named fun c first => (ends c first).1
  rw [takeDecorator?_eq, span.1, span.2]
  exact if_neg fun opens => (ends _ opens).2 rfl

theorem splitDecorators_of_head?_ne {line : List Char} (plain : line.head? ≠ some '@') :
    splitDecorators line = ([], line) := by
  rw [splitDecorators.eq_def]
  split
  · exact absurd rfl plain
  · rfl

theorem splitDecorators_at (text : List Char) :
    splitDecorators ('@' :: text) = match takeDecorator? text with
      | none => ('@' :: text, [])
      | some parts =>
        let others := splitDecorators (parts.2.dropWhile Text.isBlank)
        ('@' :: parts.1 ++ parts.2.takeWhile Text.isBlank ++ others.1, others.2) := by
  rw [splitDecorators.eq_def]
  split
  next begins =>
    rcases List.cons.inj begins with ⟨-, rfl⟩
    split
    next found => simp [found]
    next found => simp [found]
  next other => exact absurd rfl (other text)

/-- A decorator leaves nothing behind it if its arguments are enclosed, and on the first of
several lines it leaves nothing behind it because they are still open. -/
theorem splitDecorators_behind_eq_nil {name arguments : List Char}
    (named : ∀ c ∈ name, isDecoratorNameChar c = true) (opens : arguments.head? = some '(')
    (shape : IsEnclosed arguments ∨
      ∀ front, front <+: arguments → front ≠ [] → 0 < parenBalance front) :
    (splitDecorators ('@' :: (name ++ arguments))).2 = [] := by
  rw [splitDecorators_at, takeDecorator?_of_opens named opens]
  rcases shape with enclosed | opened
  · have nothing : splitDecorators [] = ([], []) := splitDecorators_of_head?_ne (by decide)
    have cut := closeParens_of_isEnclosed enclosed []
    rw [List.append_nil] at cut
    rw [cut]
    exact congrArg Prod.snd nothing
  · rw [closeParens_of_isUnclosed ⟨opens, opened⟩]
    rfl

end Routebook
