import Mathlib.Logic.Function.Iterate
import Routebook.Proofs.Source.Decorators.Leading

namespace Routebook

/-!
# Splitting a line step by step

The leading decorators of a line are found by reading it once from left to right.  A step passes
over the name of a decorator, or over one character of its arguments, where a counter goes up at
every opening parenthesis and down at every closing one.  The counter is an integer here, so that
it could go below zero.  It does not: the arguments begin with an opening parenthesis, and where
the counter comes back to zero they are over.

Two quantities carry the argument.  What the scan is going to yield, `outcome`, is the same in
front of every step and behind it, and what is left to be read, `remaining`, becomes shorter with
every step.  So the scan ends, and what it has found is the split of the line.
-/

/-- Where the scan of a line for its leading decorators stands. -/
inductive DecoratorScan where
  /-- In front of a decorator, or behind the last one. -/
  | between (read rest : List Char)
  /-- Among the arguments of a decorator, with the counter of open parentheses. -/
  | within (read : List Char) (openParens : Int) (rest : List Char)
  /-- At its end, with the decorators and the declaration. -/
  | ended (parts : List Char × List Char)

namespace DecoratorScan

/-- The scan in front of a line. -/
def start (line : List Char) : DecoratorScan :=
  .between [] line

/-- The scan behind a decorator, where blanks are passed over. -/
def behind (read rest : List Char) : DecoratorScan :=
  .between (read ++ rest.takeWhile Text.isBlank) (rest.dropWhile Text.isBlank)

/-- One step of the scan.  A scan that has ended stays as it is. -/
def step : DecoratorScan → DecoratorScan
  | .between read ('@' :: text) =>
    let name := text.takeWhile isDecoratorNameChar
    let rest := text.dropWhile isDecoratorNameChar
    if rest.head? = some '(' then .within (read ++ '@' :: name) 0 rest
    else behind (read ++ '@' :: name) rest
  | .between read rest => .ended (read, rest)
  | .within read _ [] => .ended (read, [])
  | .within read openParens (c :: rest) =>
    if c = '(' then .within (read ++ [c]) (openParens + 1) rest
    else if c = ')' then
      if openParens - 1 = 0 then behind (read ++ [c]) rest
      else .within (read ++ [c]) (openParens - 1) rest
    else .within (read ++ [c]) openParens rest
  | .ended parts => .ended parts

/-- The counter of open parentheses, which is zero outside of arguments. -/
def counter : DecoratorScan → Int
  | .within _ openParens _ => openParens
  | _ => 0

/-- The counter is positive, or the first parenthesis of the arguments comes next. -/
def Counts : DecoratorScan → Prop
  | .within _ openParens rest => 0 < openParens ∨ openParens = 0 ∧ rest.head? = some '('
  | _ => True

/-- What the scan yields in the end. -/
def outcome : DecoratorScan → List Char × List Char
  | .between read rest => (read ++ (splitDecorators rest).1, (splitDecorators rest).2)
  | .within read openParens rest =>
    match closeParens openParens.toNat rest with
    | none => (read ++ rest, [])
    | some parts =>
      let others := splitDecorators (parts.2.dropWhile Text.isBlank)
      (read ++ parts.1 ++ parts.2.takeWhile Text.isBlank ++ others.1, others.2)
  | .ended parts => parts

/-- How many steps the scan takes at most. -/
def remaining : DecoratorScan → Nat
  | .between _ rest => rest.length + 1
  | .within _ _ rest => rest.length + 1
  | .ended _ => 0

/-! ## One step -/

/-- What a step keeps and what it takes away. -/
structure Follows (scan next : DecoratorScan) : Prop where
  counts : next.Counts
  outcome : next.outcome = scan.outcome
  remaining : next.remaining ≤ scan.remaining - 1

theorem counter_nonneg {scan : DecoratorScan} (counts : scan.Counts) : 0 ≤ scan.counter := by
  cases scan with
  | between read rest => exact Int.le_refl 0
  | within read openParens rest =>
    rcases counts with positive | ⟨zero, -⟩
    · exact Int.le_of_lt positive
    · exact Int.le_of_eq zero.symm
  | ended parts => exact Int.le_refl 0

theorem outcome_behind (read rest : List Char) :
    (behind read rest).outcome =
      let others := splitDecorators (rest.dropWhile Text.isBlank)
      (read ++ rest.takeWhile Text.isBlank ++ others.1, others.2) :=
  rfl

theorem remaining_behind_le (read rest : List Char) :
    (behind read rest).remaining ≤ rest.length + 1 :=
  Nat.succ_le_succ (List.dropWhile_sublist _).length_le

/-- Reading one more character of the arguments changes nothing if the counter is changed with
it. -/
theorem outcome_within {read rest : List Char} {openParens next : Int} {c : Char}
    (readsOn : closeParens openParens.toNat (c :: rest) =
      (closeParens next.toNat rest).map fun parts => (c :: parts.1, parts.2)) :
    (within (read ++ [c]) next rest).outcome = (within read openParens (c :: rest)).outcome := by
  rw [outcome, outcome, readsOn]
  cases closeParens next.toNat rest with
  | none => simp
  | some parts => simp

/-- The step over the name of a decorator. -/
theorem follows_name (read text : List Char) :
    (between read ('@' :: text)).Follows (between read ('@' :: text)).step := by
  have whole := List.takeWhile_append_dropWhile (p := isDecoratorNameChar) (l := text)
  have shorter := (List.dropWhile_sublist (l := text) isDecoratorNameChar).length_le
  rw [step]
  split
  next opens =>
    refine ⟨Or.inr ⟨rfl, opens⟩, ?_, ?_⟩
    · rw [outcome, outcome, splitDecorators_at, takeDecorator?_eq]
      dsimp only
      rw [if_pos opens, Int.toNat_zero]
      cases closeParens 0 (text.dropWhile isDecoratorNameChar) with
      | none => simp [whole]
      | some parts => simp
    · change (text.dropWhile isDecoratorNameChar).length + 1 ≤ _
      simp only [remaining, List.length_cons]
      omega
  next bare =>
    refine ⟨trivial, ?_, ?_⟩
    · rw [outcome_behind, outcome, splitDecorators_at, takeDecorator?_eq]
      dsimp only
      rw [if_neg bare]
      simp
    · have left := remaining_behind_le (read ++ '@' :: text.takeWhile isDecoratorNameChar)
        (text.dropWhile isDecoratorNameChar)
      simp only [remaining, List.length_cons] at left ⊢
      omega

/-- The step over a character of the arguments. -/
theorem follows_character {read rest : List Char} {openParens : Int} {c : Char}
    (counts : (within read openParens (c :: rest)).Counts) :
    (within read openParens (c :: rest)).Follows (within read openParens (c :: rest)).step := by
  have starts : 0 < openParens ∨ openParens = 0 ∧ c = '(' := by
    rcases counts with positive | ⟨zero, opens⟩
    · exact Or.inl positive
    · exact Or.inr ⟨zero, Option.some.inj opens⟩
  rw [step]
  split
  next opens =>
    have deeper : (openParens + 1).toNat = openParens.toNat + 1 := by omega
    refine ⟨Or.inl (by omega), ?_, Nat.le_refl _⟩
    apply outcome_within
    rw [closeParens, if_pos (beq_iff_eq.mpr opens), deeper]
  next plain =>
    -- While the counter is zero nothing but an opening parenthesis is read.
    have positive : 0 < openParens := starts.resolve_right fun zero => plain zero.2
    have first : ¬ (c == '(') = true := fun same => plain (beq_iff_eq.mp same)
    split
    next closes =>
      split
      next last =>
        refine ⟨trivial, ?_, remaining_behind_le _ _⟩
        rw [outcome_behind, outcome, closeParens, if_neg first, if_pos (beq_iff_eq.mpr closes),
          if_pos (by omega)]
      next more =>
        have higher : (openParens - 1).toNat = openParens.toNat - 1 := by omega
        refine ⟨Or.inl (by omega), ?_, Nat.le_refl _⟩
        apply outcome_within
        rw [closeParens, if_neg first, if_pos (beq_iff_eq.mpr closes), if_neg (by omega), higher]
    next other =>
      refine ⟨Or.inl positive, ?_, Nat.le_refl _⟩
      apply outcome_within
      rw [closeParens, if_neg first, if_neg fun same => other (beq_iff_eq.mp same)]

/-- Every step follows, provided that the counter is right in front of it. -/
theorem follows_step {scan : DecoratorScan} (counts : scan.Counts) : scan.Follows scan.step := by
  cases scan with
  | between read rest =>
    by_cases sign : rest.head? = some '@'
    · rcases List.head?_eq_some_iff.mp sign with ⟨text, rfl⟩
      exact follows_name read text
    · have stops : (between read rest).step = .ended (read, rest) := by
        apply step.eq_2
        rintro text rfl
        exact sign rfl
      rw [stops]
      refine ⟨trivial, ?_, Nat.zero_le _⟩
      rw [outcome, outcome, splitDecorators_of_head?_ne sign, List.append_nil]
  | within read openParens rest =>
    cases rest with
    | nil =>
      refine ⟨trivial, ?_, Nat.zero_le _⟩
      change (read, []) = (read ++ [], [])
      rw [List.append_nil]
    | cons c rest => exact follows_character counts
  | ended parts => exact ⟨trivial, rfl, Nat.zero_le _⟩

/-! ## All steps -/

/-- What holds of the scan of a line after a number of steps. -/
structure Reached (line : List Char) (steps : Nat) (scan : DecoratorScan) : Prop where
  counts : scan.Counts
  outcome : scan.outcome = splitDecorators line
  remaining : scan.remaining ≤ line.length + 1 - steps

theorem reached_run (line : List Char) (steps : Nat) :
    (step^[steps] (start line)).Reached line steps := by
  induction steps with
  | zero => exact ⟨trivial, rfl, Nat.le_refl _⟩
  | succ steps inductionHypothesis =>
    -- The last step is taken where the steps before it have led, with the counter right there.
    rw [Function.iterate_succ_apply']
    have follows := follows_step inductionHypothesis.counts
    refine ⟨follows.counts, follows.outcome.trans inductionHypothesis.outcome, ?_⟩
    have before := inductionHypothesis.remaining
    have behind := follows.remaining
    omega

theorem Reached.eq_ended {line : List Char} {scan : DecoratorScan}
    (reached : scan.Reached line (line.length + 1)) : scan = .ended (splitDecorators line) := by
  have nothing := reached.remaining
  have outcome := reached.outcome
  rw [Nat.sub_self] at nothing
  cases scan with
  | between read rest => exact absurd nothing (Nat.not_succ_le_zero _)
  | within read openParens rest => exact absurd nothing (Nat.not_succ_le_zero _)
  | ended parts => rw [← outcome]; rfl

end DecoratorScan

/-- The scan of a line ends, its counter never goes below zero, and the line is split, without a
loss, into the longest run of decorators at its start and a declaration without an at sign in
front.  A line that ends inside the arguments of a leading decorator holds no declaration. -/
theorem leading_decorators_split_off (line : List Char) :
    DecoratorScan.step^[line.length + 1] (.start line) = .ended (splitDecorators line) ∧
    (∀ steps, 0 ≤ (DecoratorScan.step^[steps] (.start line)).counter) ∧
    (splitDecorators line).1 ++ (splitDecorators line).2 = line ∧
    (splitDecorators line).2.head? ≠ some '@' ∧
    (¬ EndsInArguments line → IsLongestRun line (splitDecorators line).1) ∧
    (EndsInArguments line → splitDecorators line = (line, [])) := by
  refine ⟨?_, ?_, splitDecorators_append line, head?_declaration_ne line,
    isLongestRun_splitDecorators, splitDecorators_of_endsInArguments⟩
  · exact (DecoratorScan.reached_run line (line.length + 1)).eq_ended
  · intro steps
    exact DecoratorScan.counter_nonneg (DecoratorScan.reached_run line steps).counts

/-- A decorator without a name stands in front of one with nested parentheses, and on the second
line the arguments of the second decorator go on below. -/
theorem leading_decorators_split_off_column :
    IsLongestRun "@@column(as(id))  declare id: number".toList "@@column(as(id))  ".toList ∧
      EndsInArguments "@column() @belongsTo(() => User, (".toList ∧
      splitDecorators "@column() @belongsTo(() => User, (".toList =
        ("@column() @belongsTo(() => User, (".toList, []) := by
  have split : splitDecorators "@@column(as(id))  declare id: number".toList =
      ("@@column(as(id))  ".toList, "declare id: number".toList) := by
    decide +kernel
  have closed : ¬ EndsInArguments "@@column(as(id))  declare id: number".toList := by
    intro ends
    have whole := (leading_decorators_split_off _).2.2.2.2.2 ends
    rw [split] at whole
    exact absurd whole (by decide)
  have unclosed : IsUnclosed "(() => User, (".toList := isUnclosed_of_closeParens (by decide)
  have column : ∀ c ∈ "column".toList, isDecoratorNameChar c = true :=
    List.all_eq_true.mp (by decide)
  have belongsTo : ∀ c ∈ "belongsTo".toList, isDecoratorNameChar c = true :=
    List.all_eq_true.mp (by decide)
  have blank : ∀ c ∈ " ".toList, Text.isBlank c = true := List.all_eq_true.mp (by decide)
  have ends : EndsInArguments "@column() @belongsTo(() => User, (".toList :=
    ⟨[⟨"column".toList, "()".toList, " ".toList, column, by decide, blank⟩],
      "belongsTo".toList, "(() => User, (".toList, belongsTo, unclosed, rfl⟩
  have run := (leading_decorators_split_off _).2.2.2.2.1 closed
  rw [split] at run
  exact ⟨run, ends, (leading_decorators_split_off _).2.2.2.2.2 ends⟩

end Routebook
