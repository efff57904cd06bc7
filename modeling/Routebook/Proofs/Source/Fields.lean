import Routebook.Proofs.Entries
import Routebook.Proofs.Source.Decorators
import Routebook.Proofs.Text.Cut
import Routebook.Source.ModelText

namespace Routebook

/-!
# Published fields of a model

A model is read line by line, and whether a line becomes a property depends on the lines
above it: a decorator may still be open, and the comments and decorators since the last
declaration may keep the field unpublished.  The scan carries both from line to line.

`ModelScan.mem_keys_step` says what one line adds to the properties, and `mem_keys_readModel`
what a whole source does: a property is there exactly if some line declares it in a state in
which it is published.  The rest of the module follows the hint above a line, which a line is
either added to or clears.
-/

/-- The name under which a line declares a property, wherever the line stands. -/
def declaredName? (snake : Bool) (line : List Char) : Option String :=
  (splitDeclaration? (splitDecorators (Text.trim line)).2).map fun parts =>
    String.ofList (if snake then snakeCase parts.1 else parts.1)

/-- The line says that the model keeps deleted records. -/
def marksDeletion (line : List Char) : Bool :=
  mentions (Text.trim line) "@swagger-softdelete" || mentions (Text.trim line) "SoftDeletes"

/-! ## Lines without a declaration -/

/-- A declaration begins with one of the words that introduce fields and accessors. -/
theorem head?_of_splitDeclaration? {declaration : List Char} {parts : List Char × List Char}
    (found : splitDeclaration? declaration = some parts) :
    declaration.head? = some 'd' ∨ declaration.head? = some 'p' := by
  have begins : ∀ (word : String) (rest : List Char), word.toList ≠ [] →
      Text.stripStart? word.toList declaration = some rest →
      declaration.head? = word.toList.head? := by
    intro word rest nonempty stripped
    rw [Text.stripStart?_eq_some_iff.mp stripped, List.head?_append]
    cases shape : word.toList with
    | nil => exact absurd shape nonempty
    | cons c others => rfl
  unfold splitDeclaration? at found
  split at found
  next rest stripped => exact Or.inr (begins "public get " rest (by decide) stripped)
  next =>
    rcases Option.bind_eq_some_iff.mp found with ⟨taken, read, _⟩
    rcases Option.bind_eq_some_iff.mp read with ⟨behind, introduced, _⟩
    unfold fieldDeclaration? at introduced
    rcases Option.or_eq_some_iff.mp introduced with stripped | ⟨_, others⟩
    · exact Or.inl (begins "declare " behind (by decide) stripped)
    · rcases Option.or_eq_some_iff.mp others with stripped | ⟨_, stripped⟩
      · exact Or.inr (begins "public declare " behind (by decide) stripped)
      · exact Or.inr (begins "public " behind (by decide) stripped)

/-- A line whose decorators leave nothing behind declares nothing. -/
theorem declaredName?_of_behind_eq_nil {snake : Bool} {line : List Char}
    (bare : (splitDecorators (Text.trim line)).2 = []) : declaredName? snake line = none := by
  rw [declaredName?, bare]
  rfl

theorem declaredName?_of_isComment {snake : Bool} {line : List Char}
    (comment : isComment (Text.trim line) = true) : declaredName? snake line = none := by
  have head : (Text.trim line).head? = some '/' ∨ (Text.trim line).head? = some '*' := by
    unfold isComment at comment
    simp only [Bool.or_eq_true, Text.startsWith_iff] at comment
    rcases comment with (⟨rest, whole⟩ | ⟨rest, whole⟩) | ⟨rest, whole⟩
    · exact Or.inl (by rw [← whole]; rfl)
    · exact Or.inl (by rw [← whole]; rfl)
    · exact Or.inr (by rw [← whole]; rfl)
  have plain : splitDecorators (Text.trim line) = ([], Text.trim line) := by
    apply splitDecorators_of_head?_ne
    rcases head with slash | star
    · rw [slash]; decide
    · rw [star]; decide
  rw [declaredName?, plain, Option.map_eq_none_iff]
  apply Option.eq_none_iff_forall_ne_some.mpr
  intro parts found
  have word := head?_of_splitDeclaration? found
  rcases head with slash | star
  · rw [slash] at word
    exact absurd word (by decide)
  · rw [star] at word
    exact absurd word (by decide)

theorem not_hidesField_nil : hidesField [] = false := by decide

/-- A mark that hides a field does so wherever it stands in a hint. -/
theorem hidesField_append {text : List Char} (hides : hidesField text = true)
    (before after : List Char) : hidesField (before ++ text ++ after) = true := by
  unfold hidesField mentions at hides ⊢
  simp only [Bool.or_eq_true] at hides ⊢
  rcases hides with (spaced | dense) | excluded
  · exact Or.inl (Or.inl (Text.contains_append spaced before after))
  · exact Or.inl (Or.inr (Text.contains_append dense before after))
  · exact Or.inr (Text.contains_append excluded before after)

/-! ## One line -/

namespace ModelScan

variable {snake : Bool} {scan : ModelScan} {line : List Char} {name : String}

/-- The line is added to the hint of the next declaration: it continues a decorator, it is a
comment, or its decorators leave nothing behind. -/
def Keeps (scan : ModelScan) (line : List Char) : Prop :=
  0 < scan.openParens ∨ isComment (Text.trim line) = true ∨
    (splitDecorators (Text.trim line)).2 = []

/-- The line is read as a declaration that nothing keeps unpublished. -/
structure Publishes (scan : ModelScan) (line : List Char) : Prop where
  read : ¬ scan.Keeps line
  member : isStaticLine (Text.trim line) = false
  hint : hidesField scan.pending = false
  decorators : hidesField (splitDecorators (Text.trim line)).1 = false

theorem step_of_blank (blank : Text.trim line = []) : scan.step snake line = scan := by
  simp [step, blank]

/-- Decorators leave nothing behind on a line that begins with one, or on an empty line. -/
theorem startsWith_of_behind_eq_nil {text : List Char} (nonempty : text ≠ [])
    (bare : (splitDecorators text).2 = []) : Text.startsWith ['@'] text = true := by
  cases text with
  | nil => exact absurd rfl nonempty
  | cons c rest =>
    by_cases at' : c = '@'
    · exact Text.startsWith_iff.mpr ⟨rest, by rw [at']; rfl⟩
    · rw [splitDecorators_of_head?_ne (by simpa using at')] at bare
      exact absurd bare (List.cons_ne_nil c rest)

/-- A line that is not blank is either kept for the next declaration or read as one. -/
theorem step_cases (snake : Bool) (scan : ModelScan) (nonblank : Text.trim line ≠ []) :
    (scan.Keeps line ∧ ∃ depth, scan.step snake line =
        { (scan.note (Text.trim line)).keep (Text.trim line) with openParens := depth }) ∨
      (¬ scan.Keeps line ∧ scan.step snake line =
        (scan.note (Text.trim line)).readDeclaration snake (Text.trim line)
          (splitDecorators (Text.trim line)).1 (splitDecorators (Text.trim line)).2) := by
  have filled : (Text.trim line).isEmpty = false := by simpa using nonblank
  rw [step, filled, if_neg Bool.false_ne_true]
  dsimp only [readLine]
  split
  next opened => exact Or.inl ⟨Or.inl opened, _, rfl⟩
  next closed =>
    split
    next comment => exact Or.inl ⟨Or.inr (Or.inl comment), _, rfl⟩
    next code =>
      split
      next decorator =>
        have bare := List.isEmpty_iff.mp (Bool.and_eq_true_iff.mp decorator).2
        exact Or.inl ⟨Or.inr (Or.inr bare), _, rfl⟩
      next followed =>
        refine Or.inr ⟨?_, rfl⟩
        rintro (opened | comment | bare)
        · exact closed opened
        · exact code comment
        · apply followed
          rw [startsWith_of_behind_eq_nil nonblank bare, bare]
          rfl

theorem step_of_keeps (snake : Bool) (nonblank : Text.trim line ≠ []) (keeps : scan.Keeps line) :
    ∃ depth, scan.step snake line =
      { (scan.note (Text.trim line)).keep (Text.trim line) with openParens := depth } := by
  rcases step_cases snake scan nonblank with ⟨_, kept⟩ | ⟨reads, _⟩
  · exact kept
  · exact absurd keeps reads

theorem step_of_not_keeps (snake : Bool) (nonblank : Text.trim line ≠ [])
    (reads : ¬ scan.Keeps line) :
    scan.step snake line = (scan.note (Text.trim line)).readDeclaration snake (Text.trim line)
      (splitDecorators (Text.trim line)).1 (splitDecorators (Text.trim line)).2 := by
  rcases step_cases snake scan nonblank with ⟨keeps, _⟩ | ⟨_, read⟩
  · exact absurd keeps reads
  · exact read

/-- Reading a declaration touches neither the hint of the line nor the marks of the model: it
ends the hint and may add one property. -/
theorem readDeclaration_frame (text decorators declaration : List Char) :
    (scan.readDeclaration snake text decorators declaration).pending = [] ∧
      (scan.readDeclaration snake text decorators declaration).openParens = scan.openParens ∧
      (scan.readDeclaration snake text decorators declaration).softDelete = scan.softDelete := by
  dsimp only [readDeclaration]
  split
  · exact ⟨rfl, rfl, rfl⟩
  · cases splitDeclaration? declaration with
    | none => exact ⟨rfl, rfl, rfl⟩
    | some parts => exact ⟨rfl, rfl, rfl⟩

/-- A declaration adds the name it declares, unless it is of a static member or hidden. -/
theorem mem_keys_readDeclaration (text decorators declaration : List Char) :
    name ∈ (scan.readDeclaration snake text decorators declaration).properties.keys ↔
      name ∈ scan.properties.keys ∨
        (isStaticLine text = false ∧ hidesField scan.pending = false ∧
            hidesField decorators = false) ∧
          (splitDeclaration? declaration).map (fun parts =>
            String.ofList (if snake then snakeCase parts.1 else parts.1)) = some name := by
  have shown : ¬ (isStaticLine text || hidesField scan.pending || hidesField decorators) = true ↔
      isStaticLine text = false ∧ hidesField scan.pending = false ∧
        hidesField decorators = false := by
    rw [Bool.not_eq_true, Bool.or_eq_false_iff, Bool.or_eq_false_iff, and_assoc]
  dsimp only [readDeclaration]
  rw [← shown]
  split
  next passed =>
    constructor
    · exact Or.inl
    · rintro (old | ⟨read, _⟩)
      · exact old
      · exact absurd passed read
  next read =>
    cases splitDeclaration? declaration with
    | none => simp
    | some parts =>
      dsimp only [Option.map_some]
      rw [Keyed.mem_keys_insert, Option.some.injEq, @eq_comm _ name, or_comm]
      simp only [read, Bool.false_eq_true, not_false_eq_true, true_and]

/-- What one line adds to the properties. -/
theorem mem_keys_step : name ∈ (scan.step snake line).properties.keys ↔
    name ∈ scan.properties.keys ∨
      scan.Publishes line ∧ declaredName? snake line = some name := by
  by_cases blank : Text.trim line = []
  · have undeclared : declaredName? snake line = none :=
      declaredName?_of_behind_eq_nil (by rw [blank, splitDecorators_of_head?_ne (by decide)])
    rw [step_of_blank blank, undeclared]
    simp
  · by_cases keeps : scan.Keeps line
    · obtain ⟨depth, kept⟩ := step_of_keeps snake blank keeps
      rw [kept]
      constructor
      · exact Or.inl
      · rintro (old | ⟨published, _⟩)
        · exact old
        · exact absurd keeps published.read
    · rw [step_of_not_keeps snake blank keeps, mem_keys_readDeclaration]
      refine or_congr Iff.rfl (and_congr ?_ Iff.rfl)
      constructor
      · rintro ⟨member, hint, decorators⟩
        exact ⟨keeps, member, hint, decorators⟩
      · rintro ⟨_, member, hint, decorators⟩
        exact ⟨member, hint, decorators⟩

/-! ## A run of lines -/

/-- The scan behind some lines of a source. -/
def after (snake : Bool) (stream : RandomStream) (lines : List (List Char)) : ModelScan :=
  lines.foldl (step snake) (start stream)

/-- A property is added by exactly the lines that declare and publish it. -/
theorem mem_keys_foldl_step (snake : Bool) (scan : ModelScan) (name : String)
    (lines : List (List Char)) :
    name ∈ (lines.foldl (step snake) scan).properties.keys ↔
      name ∈ scan.properties.keys ∨
        ∃ above line below, lines = above ++ line :: below ∧
          declaredName? snake line = some name ∧
          (above.foldl (step snake) scan).Publishes line := by
  induction lines generalizing scan with
  | nil => simp
  | cons first rest inductionHypothesis =>
    rw [List.foldl_cons, inductionHypothesis, mem_keys_step, or_assoc]
    refine or_congr Iff.rfl ?_
    constructor
    · rintro (⟨published, declares⟩ | ⟨above, line, below, rfl, declares, published⟩)
      · exact ⟨[], first, rest, rfl, declares, published⟩
      · exact ⟨first :: above, line, below, rfl, declares, published⟩
    · rintro ⟨above, line, below, whole, declares, published⟩
      cases above with
      | nil =>
        obtain ⟨rfl, rfl⟩ := List.cons.inj whole
        exact Or.inl ⟨published, declares⟩
      | cons other above =>
        obtain ⟨rfl, rfl⟩ := List.cons.inj whole
        exact Or.inr ⟨above, line, below, rfl, declares, published⟩

theorem softDelete_step : (scan.step snake line).softDelete =
    (scan.softDelete || marksDeletion line) := by
  have noted : (scan.note (Text.trim line)).softDelete = (scan.softDelete || marksDeletion line) :=
    Bool.or_assoc _ _ _
  by_cases blank : Text.trim line = []
  · rw [step_of_blank blank, marksDeletion, blank]
    exact (Bool.or_false _).symm
  · rcases step_cases snake scan blank with ⟨_, depth, kept⟩ | ⟨_, read⟩
    · rw [kept]
      exact noted
    · rw [read, (readDeclaration_frame _ _ _).2.2]
      exact noted

theorem softDelete_foldl_step (snake : Bool) (scan : ModelScan) (lines : List (List Char)) :
    (lines.foldl (step snake) scan).softDelete = (scan.softDelete || lines.any marksDeletion) := by
  induction lines generalizing scan with
  | nil => simp
  | cons first rest inductionHypothesis =>
    rw [List.foldl_cons, inductionHypothesis, softDelete_step, List.any_cons, Bool.or_assoc]

theorem foldl_step_of_blank {lines : List (List Char)}
    (blank : ∀ line ∈ lines, Text.trim line = []) : lines.foldl (step snake) scan = scan := by
  induction lines with
  | nil => rfl
  | cons first rest inductionHypothesis =>
    rw [List.foldl_cons, step_of_blank (blank first List.mem_cons_self)]
    exact inductionHypothesis fun line member => blank line (List.mem_cons_of_mem first member)

/-! ## The hint above a line -/

/-- A marked line that is kept hides what is read as a declaration next. -/
theorem not_publishes_of_keeps (keeps : scan.Keeps line)
    (marks : hidesField (Text.trim line) = true) (field : List Char) :
    ¬ (scan.step snake line).Publishes field := by
  have nonblank : Text.trim line ≠ [] := by
    intro blank
    rw [blank, not_hidesField_nil] at marks
    exact Bool.false_ne_true marks
  intro published
  have hint := published.hint
  obtain ⟨depth, kept⟩ := step_of_keeps snake nonblank keeps
  rw [kept] at hint
  have hidden : hidesField (scan.pending ++ Text.trim line ++ ['\n']) = true :=
    hidesField_append marks _ _
  exact Bool.false_ne_true (hint.symm.trans hidden)

/-- Behind a line that is not kept, the hint is empty and no decorator is open. -/
theorem publishes_of_not_keeps (nonblank : Text.trim line ≠ []) (reads : ¬ scan.Keeps line)
    {field : List Char} (declares : declaredName? snake field = some name) :
    (scan.step snake line).Publishes field ↔
      isStaticLine (Text.trim field) = false ∧
        hidesField (splitDecorators (Text.trim field)).1 = false := by
  have closed : ¬ 0 < scan.openParens := fun opened => reads (Or.inl opened)
  have next := step_of_not_keeps snake nonblank reads
  constructor
  · intro published
    exact ⟨published.member, published.decorators⟩
  · rintro ⟨member, decorators⟩
    refine ⟨?_, member, ?_, decorators⟩
    · rintro (opened | comment | bare)
      · rw [next, (readDeclaration_frame _ _ _).2.1] at opened
        exact closed opened
      · rw [declaredName?_of_isComment comment] at declares
        cases declares
      · rw [declaredName?_of_behind_eq_nil bare] at declares
        cases declares
    · rw [next, (readDeclaration_frame _ _ _).1]
      exact not_hidesField_nil

end ModelScan

/-! ## The model -/

/-- The properties of a model are those that its lines declare and publish, and the time of
deletion if a line asks for it. -/
theorem mem_keys_readModel (snake : Bool) (source : Source) (stream : RandomStream)
    (name : String) :
    name ∈ (readModel snake source stream).1.properties.keys ↔
      (∃ above line below, Text.lines source.text.toList = above ++ line :: below ∧
          declaredName? snake line = some name ∧
          (ModelScan.after snake stream above).Publishes line) ∨
        name = "deleted_at" ∧
          ∃ line ∈ Text.lines source.text.toList, marksDeletion line = true := by
  have declared := ModelScan.mem_keys_foldl_step snake (.start stream) name
    (Text.lines source.text.toList)
  have fresh : name ∉ (ModelScan.start stream).properties.keys := List.not_mem_nil
  have deletion := ModelScan.softDelete_foldl_step snake (.start stream)
    (Text.lines source.text.toList)
  rw [show (ModelScan.start stream).softDelete = false from rfl, Bool.false_or] at deletion
  rw [← List.any_eq_true, ← deletion]
  dsimp only [readModel]
  split
  next deleted =>
    rw [Keyed.mem_keys_insert, declared, deleted, or_comm]
    simp only [fresh, false_or, and_true]
    rfl
  next kept =>
    rw [declared, Bool.eq_false_iff.mpr kept]
    simp only [fresh, false_or, Bool.false_eq_true, and_false, or_false]
    rfl

end Routebook
