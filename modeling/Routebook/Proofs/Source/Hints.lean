import Routebook.Source.InterfaceText

namespace Routebook

/-!
# Comments above members

A comment of an interface is a hint for the member directly below it.  The scan keeps the hint of
the last comment until a line takes it or clears it, and lines within an object in place do
neither.  So a comment in an object outlives the object, and the first member behind it takes the
hint.

Both halves are stated as what happens to a source when the comment is deleted.  Nothing happens
unless the hint reaches a member, and then it is this one member that is read with the hint of
another comment or with none.  The induction is on the lines behind the comment: two scans that
differ in the hint alone stay so over the lines that are passed over, and every other line makes
them equal or takes the hint.
-/

/-- Whether a member is a property depends on its name alone, and one that is none draws no
sample. -/
theorem readMember_eq_none {field type : List Char} {hint : Hint} {stream : RandomStream}
    (none : (readMember field type hint stream).1.isSome = false) (other : Hint) :
    readMember field type other stream = (.none, stream) := by
  unfold readMember at none ⊢
  dsimp only at none ⊢
  split
  · rfl
  next published =>
    rw [if_neg published] at none
    split at none <;> cases none

namespace InterfaceScan

/-! ## What a line does to a hint -/

/-- The line lies within an object in place of the current interface. -/
def passesOver (scan : InterfaceScan) (line : List Char) : Bool :=
  match InterfaceLine.of line with
  | .code _ => scan.current.isSome && 0 < scan.openObjects
  | _ => false

/-- The line is a member that becomes a property of the current interface. -/
def readsMember (scan : InterfaceScan) (line : List Char) : Bool :=
  match InterfaceLine.of line with
  | .code text =>
    scan.current.isSome && scan.openObjects == 0 && text != ['}'] &&
      match Text.cutAt? ':' text with
      | some (field, type) => (readMember field type scan.hint scan.stream).1.isSome
      | none => false
  | _ => false

/-- The scan with another hint. -/
def withHint (scan : InterfaceScan) (hint : Hint) : InterfaceScan :=
  { scan with hint := hint }

/-- The interfaces that were read, and the random stream behind their samples. -/
def result (scan : InterfaceScan) : List Schema × RandomStream :=
  (scan.schemas, scan.stream)

/-- Outside of every interface no line takes a hint, and every line clears it. -/
theorem step_withHint_of_current_eq_none {scan : InterfaceScan} (outside : scan.current = none)
    (hint : Hint) (line : List Char) : (scan.withHint hint).step line = scan.step line := by
  unfold step withHint
  cases InterfaceLine.of line with
  | comment text => rfl
  | header name => rfl
  | code text =>
    dsimp only
    rw [outside]

theorem result_foldl_withHint_of_current_eq_none {scan : InterfaceScan}
    (outside : scan.current = none) (hint : Hint) (lines : List (List Char)) :
    (lines.foldl step (scan.withHint hint)).result = (lines.foldl step scan).result := by
  cases lines with
  | nil => rfl
  | cons line rest =>
    rw [List.foldl_cons, List.foldl_cons, step_withHint_of_current_eq_none outside]

/-- A line that is passed over leaves the hint alone. -/
theorem step_withHint_of_passesOver {scan : InterfaceScan} {line : List Char}
    (passed : scan.passesOver line = true) (hint : Hint) :
    (scan.withHint hint).step line = (scan.step line).withHint hint := by
  rcases scan with ⟨finished, _ | schema, known, openObjects, stream⟩
  all_goals
    unfold passesOver at passed
    unfold step
    cases kind : InterfaceLine.of line
    all_goals rw [kind] at passed
  case none.code | none.comment | none.header | some.comment | some.header => cases passed
  case some.code text =>
    have deep : 0 < openObjects := of_decide_eq_true passed
    simp only [withHint, deep, if_true]
    split
    · rfl
    · split <;> rfl

/-- A line that is neither passed over nor a member clears the hint, or it closes the
interface. -/
theorem step_withHint_cases {scan : InterfaceScan} {line : List Char}
    (kept : scan.passesOver line = false) (unread : scan.readsMember line = false) (hint : Hint) :
    (scan.withHint hint).step line = scan.step line ∨
      (scan.step line).current = none ∧
        (scan.withHint hint).step line = (scan.step line).withHint hint := by
  rcases scan with ⟨finished, _ | schema, known, openObjects, stream⟩
  · exact Or.inl (step_withHint_of_current_eq_none rfl hint line)
  · unfold passesOver at kept
    unfold readsMember at unread
    unfold step
    cases kind : InterfaceLine.of line with
    | comment text => exact Or.inl rfl
    | header name => exact Or.inl rfl
    | code text =>
      rw [kind] at kept unread
      have flat : ¬ 0 < openObjects := of_decide_eq_false kept
      simp only [withHint, flat, if_false]
      split
      next => exact Or.inr ⟨rfl, rfl⟩
      next unclosed =>
        left
        obtain rfl := Nat.eq_zero_of_not_pos flat
        have other : (text != ['}']) = true := by
          rw [bne, Bool.not_eq_true']
          exact Bool.eq_false_iff.mpr unclosed
        dsimp only at unread
        rw [other] at unread
        unfold readCode
        cases cut : Text.cutAt? ':' text with
        | none => rfl
        | some parts =>
          rw [cut] at unread
          dsimp only at unread ⊢
          rw [readMember_eq_none unread hint, readMember_eq_none unread known]

/-! ## Where a hint goes -/

/-- All the lines are passed over, one after the other. -/
def passesAll (scan : InterfaceScan) : List (List Char) → Bool
  | [] => true
  | line :: rest => scan.passesOver line && (scan.step line).passesAll rest

/-- The hint reaches a member: the first line that is not passed over is one. -/
def HintReaches (scan : InterfaceScan) (lines : List (List Char)) : Prop :=
  ∃ inside member later, lines = inside ++ member :: later ∧ scan.passesAll inside = true ∧
    (inside.foldl step scan).readsMember member = true

theorem hintReaches_cons_iff {scan : InterfaceScan} {line : List Char}
    {rest : List (List Char)} :
    scan.HintReaches (line :: rest) ↔ scan.readsMember line = true ∨
      scan.passesOver line = true ∧ (scan.step line).HintReaches rest := by
  constructor
  · rintro ⟨_ | ⟨first, inside⟩, member, later, split, passed, read⟩
    · exact Or.inl ((List.cons.inj split).1 ▸ read)
    · obtain ⟨rfl, rfl⟩ := List.cons.inj split
      rcases Bool.and_eq_true_iff.mp passed with ⟨here, behind⟩
      exact Or.inr ⟨here, inside, member, later, rfl, behind, read⟩
  · rintro (read | ⟨here, inside, member, later, rfl, behind, read⟩)
    · exact ⟨[], line, rest, rfl, rfl, read⟩
    · exact ⟨line :: inside, member, later, rfl, Bool.and_eq_true_iff.mpr ⟨here, behind⟩, read⟩

theorem hintReaches_cons_iff_of_not_passesOver {scan : InterfaceScan} {line : List Char}
    (kept : scan.passesOver line = false) (rest : List (List Char)) :
    scan.HintReaches (line :: rest) ↔ scan.readsMember line = true := by
  rw [hintReaches_cons_iff, kept]
  simp

/-- A hint that reaches no member changes nothing. -/
theorem result_foldl_withHint {scan : InterfaceScan} {lines : List (List Char)}
    (lost : ¬ scan.HintReaches lines) (hint : Hint) :
    (lines.foldl step (scan.withHint hint)).result = (lines.foldl step scan).result := by
  induction lines generalizing scan with
  | nil => rfl
  | cons line rest inductionHypothesis =>
    rw [hintReaches_cons_iff, not_or, not_and] at lost
    cases passed : scan.passesOver line with
    | true =>
      rw [List.foldl_cons, step_withHint_of_passesOver passed, inductionHypothesis (lost.2 passed),
        List.foldl_cons]
    | false =>
      rw [List.foldl_cons, List.foldl_cons]
      rcases step_withHint_cases passed (Bool.eq_false_iff.mpr lost.1) hint with
        cleared | ⟨outside, closed⟩
      · rw [cleared]
      · rw [closed, result_foldl_withHint_of_current_eq_none outside]

/-- Lines that are passed over carry the hint along. -/
theorem foldl_step_withHint_of_passesAll {scan : InterfaceScan} {lines : List (List Char)}
    (passed : scan.passesAll lines = true) (hint : Hint) :
    lines.foldl step (scan.withHint hint) = (lines.foldl step scan).withHint hint := by
  induction lines generalizing scan with
  | nil => rfl
  | cons line rest inductionHypothesis =>
    rcases Bool.and_eq_true_iff.mp passed with ⟨here, behind⟩
    rw [List.foldl_cons, step_withHint_of_passesOver here, inductionHypothesis behind,
      List.foldl_cons]

theorem step_of_isComment {line : List Char} (comment : isComment line = true)
    (scan : InterfaceScan) : scan.step line = scan.withHint (.ofComment line) := by
  rw [step, InterfaceLine.of, if_pos comment]
  rfl

end InterfaceScan

/-! ## Sources -/

theorem readInterfaces_eq_result {source : Source} {lines : List (List Char)}
    (cut : Text.lines source.text.toList = lines) (stream : RandomStream) :
    readInterfaces source stream =
      ((lines.flatMap logicalLinesOf).foldl InterfaceScan.step (.start stream)).result := by
  rw [← cut]
  rfl

open InterfaceScan in
/-- A comment may be deleted from a source if the line below it is neither a member nor within an
object in place; and within an object, if the hint does not reach a member.  The hint does reach
the first line behind those that are passed over: the source is read with the hint of the comment
at this line, and without the comment it is read with the hint of the comment before it, if there
is one. -/
theorem comment_deleted_unless_hint_reaches {source other : Source}
    {before after : List (List Char)} {comment : List Char}
    (whole : Text.lines source.text.toList = before ++ comment :: after)
    (rest : Text.lines other.text.toList = before ++ after)
    (marked : isComment (Text.trim comment) = true) (stream : RandomStream) :
    let scan := (before.flatMap logicalLinesOf).foldl step (.start stream)
    let lines := after.flatMap logicalLinesOf
    ((∀ line, lines.head? = some line →
        scan.readsMember line = false ∧ scan.passesOver line = false) →
      readInterfaces other stream = readInterfaces source stream) ∧
    (¬ scan.HintReaches lines → readInterfaces other stream = readInterfaces source stream) ∧
    ∀ inside member later, lines = inside ++ member :: later → scan.passesAll inside = true →
      readInterfaces source stream = (later.foldl step
        (((inside.foldl step scan).withHint (.ofComment (Text.trim comment))).step
          member)).result ∧
      readInterfaces other stream =
        (later.foldl step ((inside.foldl step scan).step member)).result := by
  intro scan lines
  have commented : logicalLinesOf comment = [Text.trim comment] := by
    rw [logicalLinesOf]
    exact if_pos marked
  have kept : readInterfaces source stream =
      (lines.foldl step (scan.withHint (.ofComment (Text.trim comment)))).result := by
    rw [readInterfaces_eq_result whole, List.flatMap_append, List.flatMap_cons, commented,
      List.foldl_append, List.singleton_append, List.foldl_cons, step_of_isComment marked]
  have deleted : readInterfaces other stream = (lines.foldl step scan).result := by
    rw [readInterfaces_eq_result rest, List.flatMap_append, List.foldl_append]
  have unread : ¬ scan.HintReaches lines →
      readInterfaces other stream = readInterfaces source stream := by
    intro lost
    rw [deleted, kept, result_foldl_withHint lost]
  refine ⟨?_, unread, ?_⟩
  · intro plain
    apply unread
    cases shape : lines with
    | nil =>
      rintro ⟨inside, member, later, none, -⟩
      exact List.append_ne_nil_of_right_ne_nil inside (List.cons_ne_nil member later) none.symm
    | cons line others =>
      rcases plain line (by rw [shape, List.head?_cons]) with ⟨noMember, notPassed⟩
      rw [hintReaches_cons_iff_of_not_passesOver notPassed, noMember]
      exact Bool.false_ne_true
  · intro inside member later shape passed
    rw [kept, deleted, shape, List.foldl_append, List.foldl_append,
      foldl_step_withHint_of_passesAll passed]
    exact ⟨rfl, rfl⟩

/-! ## A comment in an object -/

namespace Source

/-- A page up to the first member of an object in it. -/
def pageStart : List (List Char) :=
  ["interface Page \x7b".toList, "  meta: \x7b".toList]

/-- A comment for a number. -/
def pageNote : List Char := "    // @example(12)".toList

/-- The rest of the page: the member of the object, and a member behind the object. -/
def pageRest : List (List Char) :=
  ["    count: number".toList, "  \x7d".toList, "  title: string".toList, "\x7d".toList]

/-- The page with a comment in its object. -/
def notedPage : Source :=
  ⟨"app/interfaces/page.ts",
    "interface Page \x7b\n  meta: \x7b\n    // @example(12)\n    count: number\n  \x7d\n" ++
      "  title: string\n\x7d\n"⟩

/-- The page without the comment. -/
def plainPage : Source :=
  ⟨"app/interfaces/page.ts",
    "interface Page \x7b\n  meta: \x7b\n    count: number\n  \x7d\n" ++
      "  title: string\n\x7d\n"⟩

open InterfaceScan in
/-- The line below the comment lies within an object, and the member behind the object takes the
comment for a hint: without it the page is another one. -/
theorem note_in_object_changes_title :
    Text.lines notedPage.text.toList = pageStart ++ pageNote :: pageRest ∧
      Text.lines plainPage.text.toList = pageStart ++ pageRest ∧
      isComment (Text.trim pageNote) = true ∧
      (pageRest.flatMap logicalLinesOf).head? = some "count: number".toList ∧
      ((pageStart.flatMap logicalLinesOf).foldl step (.start (.ofSeed 0))).passesOver
        "count: number".toList = true ∧
      readInterfaces plainPage (.ofSeed 0) ≠ readInterfaces notedPage (.ofSeed 0) := by
  decide +kernel

/-- The samples of the members of a name. -/
def samplesOf (name : String) (schemas : List Schema) : List (Option Json) :=
  schemas.map fun schema => (schema.properties.get? name).map (·.sample)

theorem comment_deleted_from_page :
    Text.lines notedPage.text.toList = pageStart ++ pageNote :: pageRest ∧
      Text.lines plainPage.text.toList = pageStart ++ pageRest ∧
      isComment (Text.trim pageNote) = true ∧
      samplesOf "title" (readInterfaces notedPage (.ofSeed 0)).1 = [some (.text "12")] ∧
      samplesOf "title" (readInterfaces plainPage (.ofSeed 0)).1 =
        [some (.text "Lorem Ipsum")] := by
  have whole : Text.lines notedPage.text.toList = pageStart ++ pageNote :: pageRest := by
    decide +kernel
  have rest : Text.lines plainPage.text.toList = pageStart ++ pageRest := by
    decide +kernel
  have marked : isComment (Text.trim pageNote) = true := by
    decide +kernel
  have lines : pageRest.flatMap logicalLinesOf =
      ["count: number".toList, ['}']] ++ "title: string".toList :: [['}']] := by
    decide +kernel
  rcases (comment_deleted_unless_hint_reaches whole rest marked (.ofSeed 0)).2.2 _ _ _ lines
    (by decide +kernel) with ⟨noted, plain⟩
  refine ⟨whole, rest, marked, ?_, ?_⟩
  · rw [noted]
    decide +kernel
  · rw [plain]
    decide +kernel

end Source
end Routebook
