import Routebook.Text.Cut

namespace Routebook

/-!
# Decorators

A decorator is an at sign, a name and an optional list of arguments in parentheses.  Several
decorators may precede a declaration on its line, and the arguments of the last one on a line
may continue on the lines below.

Main definition: `splitDecorators` cuts a line into its leading decorators and the rest.
-/

def isDecoratorNameChar (c : Char) : Bool :=
  Text.isAlphanumeric c || c == '.' || c == '_'

/-- The text up to the parenthesis that closes the given number of open ones, and the text
behind it. -/
def closeParens (depth : Nat) : List Char → Option (List Char × List Char)
  | [] => none
  | c :: rest =>
    if c == '(' then (closeParens (depth + 1) rest).map fun parts => (c :: parts.1, parts.2)
    else if c == ')' then
      if depth ≤ 1 then some ([c], rest)
      else (closeParens (depth - 1) rest).map fun parts => (c :: parts.1, parts.2)
    else (closeParens depth rest).map fun parts => (c :: parts.1, parts.2)

/-- A list of arguments loses nothing when it is cut off. -/
theorem eq_append_of_closeParens {depth : Nat} {text arguments rest : List Char}
    (closed : closeParens depth text = some (arguments, rest)) : text = arguments ++ rest := by
  induction text generalizing depth arguments with
  | nil => simp [closeParens] at closed
  | cons c text inductionHypothesis =>
    have extend : ∀ depth, (closeParens depth text).map (fun parts => (c :: parts.1, parts.2)) =
        some (arguments, rest) → c :: text = arguments ++ rest := by
      intro depth mapped
      obtain ⟨parts, inner, shape⟩ := Option.map_eq_some_iff.mp mapped
      obtain ⟨rfl, rfl⟩ : c :: parts.1 = arguments ∧ parts.2 = rest := by simpa using shape
      simp [inductionHypothesis inner]
    rw [closeParens] at closed
    split at closed
    · exact extend _ closed
    · split at closed
      · split at closed
        · obtain ⟨rfl, rfl⟩ : [c] = arguments ∧ text = rest := by simpa using closed
          rfl
        · exact extend _ closed
      · exact extend _ closed

/-- A decorator at the start of a text that begins behind its at sign: the name, the list of
arguments if there is one, and the rest.  There is none if the list is not closed. -/
def takeDecorator? (text : List Char) : Option (List Char × List Char) :=
  let name := text.takeWhile isDecoratorNameChar
  let rest := text.dropWhile isDecoratorNameChar
  match rest with
  | '(' :: _ => (closeParens 0 rest).map fun parts => (name ++ parts.1, parts.2)
  | _ => some (name, rest)

/-- A decorator loses nothing when it is cut off. -/
theorem eq_append_of_takeDecorator? {text decorator rest : List Char}
    (taken : takeDecorator? text = some (decorator, rest)) : text = decorator ++ rest := by
  have whole := List.takeWhile_append_dropWhile (p := isDecoratorNameChar) (l := text)
  dsimp only [takeDecorator?] at taken
  split at taken
  next tail begins =>
    obtain ⟨parts, closed, shape⟩ := Option.map_eq_some_iff.mp taken
    obtain ⟨rfl, rfl⟩ : _ = decorator ∧ parts.2 = rest := by simpa using shape
    rw [List.append_assoc, ← eq_append_of_closeParens closed, whole]
  next =>
    obtain ⟨rfl, rfl⟩ : _ = decorator ∧ _ = rest := by simpa using taken
    exact whole.symm

/-- What follows a decorator and its blanks is no longer than what follows the at sign. -/
theorem length_dropWhile_le_of_takeDecorator? {text decorator rest : List Char}
    (taken : takeDecorator? text = some (decorator, rest)) :
    (rest.dropWhile Text.isBlank).length ≤ text.length := by
  have parted := congrArg List.length (eq_append_of_takeDecorator? taken)
  have shorter := (List.dropWhile_sublist (l := rest) Text.isBlank).length_le
  simp only [List.length_append] at parted
  omega

/-- The leading decorators of a text with the blanks behind each, and the text behind them.
Nothing is left of a text in which the arguments of a decorator are not closed. -/
def splitDecorators (line : List Char) : List Char × List Char :=
  match line with
  | '@' :: text =>
    match taken : takeDecorator? text with
    | none => ('@' :: text, [])
    | some (decorator, behind) =>
      have := length_dropWhile_le_of_takeDecorator? taken
      let others := splitDecorators (behind.dropWhile Text.isBlank)
      ('@' :: decorator ++ behind.takeWhile Text.isBlank ++ others.1, others.2)
  | _ => ([], line)
termination_by line.length
decreasing_by exact Nat.lt_succ_of_le this

/-- Opening parentheses of a line minus closing ones. -/
def parenBalance (line : List Char) : Int :=
  (line.count '(' : Int) - (line.count ')' : Int)

end Routebook
