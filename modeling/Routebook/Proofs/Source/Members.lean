import Routebook.Proofs.Source.Decorators
import Routebook.Proofs.Source.Fields

namespace Routebook

/-!
# Members of a model

A member of a model is written as comments, at most one decorator, and the line of a field.  The
scan keeps the comments and the lines of the decorator as a hint and counts its parentheses, so
that in front of every member the hint is empty and no parenthesis is open, however the decorators
before it are broken into lines.  Therefore a model is read member by member: what one member adds
depends on its own lines, and on the random stream that the members before it leave.
-/

/-! ## Written members -/

/-- A decorator that is broken into lines behind its opening parenthesis or nowhere. -/
structure WrittenDecorator where
  name : List Char
  /-- The arguments on the line of the name. -/
  first : List Char
  /-- The lines below. -/
  others : List (List Char)
  named : ∀ c ∈ name, isDecoratorNameChar c = true
  opens : first.head? = some '('
  filled : ∀ row ∈ others, row ≠ []
  enclosed : IsEnclosed (first ++ others.flatten)

/-- The lines of a decorator. -/
def WrittenDecorator.rows (decorator : WrittenDecorator) : List (List Char) :=
  ('@' :: (decorator.name ++ decorator.first)) :: decorator.others

/-- A field with the comments and the decorator above it. -/
structure ModelMember where
  comments : List (List Char)
  decorator : Option WrittenDecorator
  field : List Char
  type : List Char
  commented : ∀ row ∈ comments, Text.startsWith ['/', '/'] row = true
  filled : field ≠ []
  named : ∀ c ∈ field, Text.isBlank c = false ∧ c ∉ [':', '(', '?', '!']
  typed : ∀ c ∈ type, c ∉ ['(', ')', ':', '{', '}']
  uninitialized : ¬ " = ".toList <:+: type

namespace ModelMember

/-- The lines above the field. -/
def lead (member : ModelMember) : List (List Char) :=
  member.comments ++ (member.decorator.map WrittenDecorator.rows).getD []

/-- The line of the field. -/
def fieldRow (member : ModelMember) : List Char :=
  Text.trim ("declare ".toList ++ (member.field ++ ':' :: ' ' :: member.type))

/-- The lines of a member. -/
def rows (member : ModelMember) : List (List Char) :=
  member.lead ++ [member.fieldRow]

/-- A comment of the member or its decorator keeps the field unpublished. -/
def isHidden (member : ModelMember) : Bool :=
  member.lead.any hidesField

/-- The key of the property. -/
def key (snake : Bool) (member : ModelMember) : String :=
  String.ofList (if snake then snakeCase member.field else member.field)

/-- The written type without the semicolons behind it. -/
def typeText (member : ModelMember) : List Char :=
  Text.trim (Text.trimEndWhere (· == ';') (Text.trim member.type))

/-- Lines as they are kept for the next declaration. -/
def hintText (rows : List (List Char)) : List Char :=
  rows.flatMap (· ++ ['\n'])

/-- The property of a member and the stream behind it. -/
def read (snake : Bool) (member : ModelMember) (stream : RandomStream) :
    Property × RandomStream :=
  readField (member.key snake) member.typeText member.fieldRow
    (.ofPending (hintText member.lead)) stream

/-- What a member adds to the properties, and the stream behind it. -/
def add (snake : Bool) (state : Keyed Property × RandomStream) (member : ModelMember) :
    Keyed Property × RandomStream :=
  if member.isHidden then state
  else (state.1.insert (member.key snake) (member.read snake state.2).1,
    (member.read snake state.2).2)

/-- What members add to the properties, and the stream behind them. -/
def addAll (snake : Bool) (members : List ModelMember) (stream : RandomStream) :
    Keyed Property × RandomStream :=
  members.foldl (add snake) (.empty, stream)

/-! ## The line of a field -/

theorem fieldRow_eq (member : ModelMember) :
    member.fieldRow =
      "declare ".toList ++ (member.field ++ ':' :: Text.trimEnd (' ' :: member.type)) := by
  have shape : "declare ".toList ++ (member.field ++ ':' :: ' ' :: member.type) =
      'd' :: ("eclare ".toList ++ member.field ++ ':' :: ' ' :: member.type) := by
    simp
  rw [fieldRow, shape, Text.trim, Text.trimWhere_cons_of_not (by decide),
    Text.trimEndWhere_cons_of_not (by decide), Text.trimEndWhere_append_cons (by decide)]
  simp [Text.trimEnd]

/-- The type is read as it is written, since nothing but semicolons can be cut off. -/
theorem fieldType_eq (member : ModelMember) :
    fieldType (Text.trimEnd (' ' :: member.type)) = member.typeText := by
  have raw : Text.trim (Text.trimEnd (' ' :: member.type)) = Text.trim member.type := by
    rw [Text.trim_trimEnd, Text.trim, Text.trimWhere_cons (by decide), Text.trim]
  have within : Text.trim member.type <:+: member.type := Text.trimWhere_isInfix _ _
  have whole : Text.cut? " = ".toList (Text.trim member.type) = none :=
    Text.cut?_eq_none_iff.mpr fun held => member.uninitialized (held.trans within)
  have noBrace : Text.trimEndWhere (· == '{') (Text.trim member.type) = Text.trim member.type := by
    apply Text.trimEndWhere_eq_self
    intro c last
    apply beq_eq_false_iff_ne.mpr
    rintro rfl
    exact member.typed _ (within.subset (List.mem_of_getLast? last)) (by decide)
  have twice : Text.trim (Text.trim member.type) = Text.trim member.type :=
    Text.trimWhere_trimWhere _ _
  rw [fieldType, raw, whole, Option.map_none, Option.getD_none, noBrace, twice, typeText]

theorem fieldName_eq (member : ModelMember) : fieldName member.field = member.field := by
  have solid : Text.trim member.field = member.field :=
    Text.trim_of_solid fun c inside => (member.named c inside).1
  have marks : Text.trimEndWhere (fun c => c == '?' || c == '!') member.field = member.field := by
    apply Text.trimEndWhere_eq_self
    intro c last
    have plain := (member.named c (List.mem_of_getLast? last)).2
    simp only [List.mem_cons, List.not_mem_nil, or_false, not_or] at plain
    simp [plain]
  rw [fieldName, solid, marks, solid]

theorem splitDeclaration?_fieldRow (member : ModelMember) :
    splitDeclaration? member.fieldRow = some (member.field, member.typeText) := by
  have property : Text.stripStart? "public get ".toList member.fieldRow = none := by
    rw [member.fieldRow_eq]
    rfl
  have introduced : fieldDeclaration? member.fieldRow =
      some (member.field ++ ':' :: Text.trimEnd (' ' :: member.type)) := by
    rw [fieldDeclaration?, member.fieldRow_eq, Text.stripStart?_eq_some_iff.mpr rfl, Option.some_or]
  have colon : ':' ∉ member.field := fun inside => (member.named _ inside).2 (by decide)
  have noMethod : '(' ∉ member.field ++ ':' :: Text.trimEnd (' ' :: member.type) := by
    rw [List.mem_append, List.mem_cons]
    rintro (inside | mark | inside)
    · exact (member.named _ inside).2 (by decide)
    · exact absurd mark (by decide)
    · rcases List.mem_cons.mp ((Text.trimEndWhere_isPrefix _ _).subset inside) with blank | inside
      · exact absurd blank (by decide)
      · exact member.typed _ inside (by decide)
  have parts : fieldParts? (member.field ++ ':' :: Text.trimEnd (' ' :: member.type)) =
      some (member.field, Text.trimEnd (' ' :: member.type)) := by
    rw [fieldParts?, if_neg (by simp [noMethod]), Text.cutAt?_append_cons colon]
  have noBlank : ' ' ∉ member.field := fun inside =>
    absurd (member.named _ inside).1 (by decide)
  have named : ¬ (member.field.isEmpty || member.field.contains ' ') = true := by
    simp [member.filled, noBlank]
  rw [splitDeclaration?, property, introduced]
  simp only [Option.bind_some, parts, Option.bind_eq_bind, member.fieldName_eq, member.fieldType_eq]
  rw [if_neg named]

/-! ## Marks above a field -/

/-- A mark stands within one of the lines that are kept. -/
theorem mentions_append_cons (before after : List Char) {needle : String}
    (apart : '\n' ∉ needle.toList) :
    mentions (before ++ '\n' :: after) needle =
      (mentions before needle || mentions after needle) := by
  rw [Bool.eq_iff_iff, Bool.or_eq_true]
  unfold mentions
  rw [Text.contains_iff, Text.contains_iff, Text.contains_iff, Text.infix_append_cons_iff apart]

theorem hidesField_append_cons (before after : List Char) :
    hidesField (before ++ '\n' :: after) = (hidesField before || hidesField after) := by
  unfold hidesField
  rw [mentions_append_cons _ _ (by decide), mentions_append_cons _ _ (by decide),
    mentions_append_cons _ _ (by decide)]
  ac_rfl

theorem hidesField_hintText (rows : List (List Char)) :
    hidesField (hintText rows) = rows.any hidesField := by
  induction rows with
  | nil => exact not_hidesField_nil
  | cons row others inductionHypothesis =>
    rw [hintText, List.flatMap_cons, List.append_assoc, List.singleton_append,
      hidesField_append_cons, List.any_cons, ← inductionHypothesis, hintText]

end ModelMember

/-- A line that is no part of a member: it declares nothing, and it is no comment and no
decorator. -/
structure IsFrame (row : List Char) : Prop where
  plain : row.head? ≠ some '@'
  code : isComment row = false
  silent : splitDeclaration? row = none

/-- A source of members between other lines, such as those that begin and end a class.  No line
says that the model keeps deleted records. -/
structure IsWritten (source : Source) (opening : List (List Char)) (members : List ModelMember)
    (closing : List (List Char)) : Prop where
  rows : Text.rows source.text.toList = opening ++ members.flatMap ModelMember.rows ++ closing
  opened : ∀ row ∈ opening, IsFrame row
  closed : ∀ row ∈ closing, IsFrame row
  unmarked : ∀ line ∈ Text.lines source.text.toList, marksDeletion line = false

/-! ## The scan over a member -/

namespace ModelScan

/-- Where a scan stands, apart from the name of the class and the marks of the model. -/
structure Stands (scan : ModelScan) (pending : List Char) (openParens : Int)
    (properties : Keyed Property) (stream : RandomStream) : Prop where
  pending : scan.pending = pending
  openParens : scan.openParens = openParens
  properties : scan.properties = properties
  stream : scan.stream = stream

section Rows

variable (snake : Bool) {scan : ModelScan} {pending : List Char} {properties : Keyed Property}
  {stream : RandomStream}

theorem Stands.closed (stands : scan.Stands pending 0 properties stream) (row : List Char) :
    ¬ 0 < (scan.note row).openParens := by
  have none : (scan.note row).openParens = 0 := stands.openParens
  omega

theorem Stands.comment (stands : scan.Stands pending 0 properties stream) {row : List Char}
    (comment : Text.startsWith ['/', '/'] row = true) :
    (scan.readLine snake row).Stands (pending ++ row ++ ['\n']) 0 properties stream := by
  have is : isComment row = true := by
    simp [isComment, comment]
  rw [readLine, if_neg (stands.closed _)]
  dsimp only
  rw [if_pos is]
  exact ⟨congrArg (· ++ row ++ ['\n']) stands.pending, stands.openParens, stands.properties,
    stands.stream⟩

/-- A decorator with nothing behind it may leave parentheses open. -/
theorem Stands.decorator (stands : scan.Stands pending 0 properties stream) {row : List Char}
    (begins : row.head? = some '@') (bare : (splitDecorators row).2 = [])
    (balanced : 0 ≤ parenBalance row) :
    (scan.readLine snake row).Stands (pending ++ row ++ ['\n']) (parenBalance row) properties
      stream := by
  have code : ¬ isComment row = true := by
    rcases List.head?_eq_some_iff.mp begins with ⟨rest, rfl⟩
    exact Bool.false_ne_true
  have alone : (Text.startsWith ['@'] row && (splitDecorators row).2.isEmpty) = true := by
    rw [Text.startsWith_singleton_iff.mpr begins, bare]
    rfl
  rw [readLine, if_neg (stands.closed _)]
  dsimp only
  rw [if_neg code, if_pos alone]
  have depth : max 0 (parenBalance row) = parenBalance row := Int.max_eq_right balanced
  exact ⟨congrArg (· ++ row ++ ['\n']) stands.pending, depth, stands.properties, stands.stream⟩

/-- A line within a decorator is kept whatever it is. -/
theorem Stands.continued {openParens : Int}
    (stands : scan.Stands pending openParens properties stream)
    (opened : 0 < openParens) (row : List Char) :
    (scan.readLine snake row).Stands (pending ++ row ++ ['\n']) (openParens + parenBalance row)
      properties stream := by
  have here : 0 < (scan.note row).openParens := by
    rw [← stands.openParens] at opened
    exact opened
  rw [readLine, if_pos here]
  exact ⟨congrArg (· ++ row ++ ['\n']) stands.pending,
    congrArg (· + parenBalance row) stands.openParens, stands.properties, stands.stream⟩

/-- A line without a decorator is read as a declaration. -/
theorem Stands.readLine_of_plain (stands : scan.Stands pending 0 properties stream)
    {row : List Char} (plain : row.head? ≠ some '@') (code : isComment row = false) :
    scan.readLine snake row = (scan.note row).readDeclaration snake row [] row := by
  have noDecorator : ¬ (Text.startsWith ['@'] row && row.isEmpty) = true := by
    rw [Bool.and_eq_true, Text.startsWith_singleton_iff]
    exact fun both => plain both.1
  rw [readLine, if_neg (stands.closed _), splitDecorators_of_head?_ne plain]
  dsimp only
  rw [if_neg (Bool.eq_false_iff.mp code), if_neg noDecorator]

/-- A line that is no part of a member changes nothing. -/
theorem Stands.frame (stands : scan.Stands [] 0 properties stream) {row : List Char}
    (frame : IsFrame row) : (scan.readLine snake row).Stands [] 0 properties stream := by
  rw [stands.readLine_of_plain snake frame.plain frame.code, readDeclaration, frame.silent]
  dsimp only
  split <;> exact ⟨rfl, stands.openParens, stands.properties, stands.stream⟩

/-- The line of a field adds its property, unless the lines above it keep it unpublished. -/
theorem Stands.field (stands : scan.Stands pending 0 properties stream) (member : ModelMember) :
    (scan.readLine snake member.fieldRow).Stands [] 0
      (if hidesField pending then properties
        else properties.insert (member.key snake) (readField (member.key snake) member.typeText
          member.fieldRow (.ofPending pending) stream).1)
      (if hidesField pending then stream
        else (readField (member.key snake) member.typeText member.fieldRow (.ofPending pending)
          stream).2) := by
  have first : ∃ rest, member.fieldRow = 'd' :: rest := ⟨_, member.fieldRow_eq⟩
  rcases first with ⟨rest, shape⟩
  have plain : member.fieldRow.head? ≠ some '@' := by
    rw [shape]
    exact fun same => absurd (Option.some.inj same) (by decide)
  have code : isComment member.fieldRow = false := by
    rw [shape]
    rfl
  have member' : isStaticLine member.fieldRow = false := by
    rw [shape]
    rfl
  rw [stands.readLine_of_plain snake plain code, readDeclaration, member.splitDeclaration?_fieldRow,
    member', not_hidesField_nil, Bool.false_or, Bool.or_false]
  have noted : (scan.note member.fieldRow).pending = pending := stands.pending
  dsimp only
  rw [noted]
  by_cases hides : hidesField pending = true
  · rw [if_pos hides, if_pos hides, if_pos hides]
    exact ⟨rfl, stands.openParens, stands.properties, stands.stream⟩
  · rw [if_neg hides, if_neg hides, if_neg hides]
    have before : (scan.note member.fieldRow).stream = stream := stands.stream
    have table : (scan.note member.fieldRow).properties = properties := stands.properties
    rw [before, table]
    exact ⟨rfl, stands.openParens, rfl, rfl⟩

end Rows

/-! ## Whole members -/

section Members

open ModelMember

variable (snake : Bool) {scan : ModelScan} {pending : List Char} {properties : Keyed Property}
  {stream : RandomStream}

theorem Stands.comments (stands : scan.Stands pending 0 properties stream)
    {rows : List (List Char)} (comments : ∀ row ∈ rows, Text.startsWith ['/', '/'] row = true) :
    (rows.foldl (readLine snake) scan).Stands (pending ++ hintText rows) 0 properties stream := by
  induction rows generalizing scan pending with
  | nil => rwa [hintText, List.flatMap_nil, List.append_nil]
  | cons row others inductionHypothesis =>
    have next := inductionHypothesis (stands.comment snake (comments row List.mem_cons_self))
      fun other member => comments other (List.mem_cons_of_mem row member)
    rwa [List.append_assoc pending, List.append_assoc] at next

/-- The lines below the name of a decorator close what its first line leaves open. -/
theorem Stands.enclosed {front : List Char}
    (stands : scan.Stands pending (parenBalance front) properties stream)
    {rows : List (List Char)} (nonempty : front ≠ []) (filled : ∀ row ∈ rows, row ≠ [])
    (enclosed : IsEnclosed (front ++ rows.flatten)) :
    (rows.foldl (readLine snake) scan).Stands (pending ++ hintText rows) 0 properties stream := by
  induction rows generalizing scan pending front with
  | nil =>
    have closed := enclosed.closed
    rw [List.flatten_nil, List.append_nil] at closed
    rwa [hintText, List.flatMap_nil, List.append_nil, ← closed]
  | cons row others inductionHypothesis =>
    have more : row ≠ [] := filled row List.mem_cons_self
    -- While a line follows, the text so far is not yet the whole, so a parenthesis is open.
    have opened : 0 < parenBalance front := by
      refine enclosed.inner front (List.prefix_append _ _) nonempty fun whole => more ?_
      have rest := List.append_right_eq_self.mp whole.symm
      rw [List.flatten_cons, List.append_eq_nil_iff] at rest
      exact rest.1
    have kept := stands.continued snake opened row
    rw [← parenBalance_append] at kept
    have next := inductionHypothesis kept (List.append_ne_nil_of_left_ne_nil nonempty row)
      (fun other member => filled other (List.mem_cons_of_mem row member))
      (by rwa [List.append_assoc, ← List.flatten_cons])
    rwa [List.append_assoc pending, List.append_assoc] at next

/-- Behind a decorator no parenthesis is open. -/
theorem Stands.decorated (stands : scan.Stands pending 0 properties stream)
    (decorator : WrittenDecorator) :
    (decorator.rows.foldl (readLine snake) scan).Stands (pending ++ hintText decorator.rows) 0
      properties stream := by
  have nonempty : decorator.first ≠ [] := by
    intro none
    have opens := decorator.opens
    rw [none] at opens
    cases opens
  have plainName : parenBalance ('@' :: decorator.name) = 0 := by
    apply parenBalance_of_plain
    intro c member
    rcases List.mem_cons.mp member with rfl | inside
    · decide
    · have is := decorator.named c inside
      constructor
      · rintro rfl
        exact absurd is (by decide)
      · rintro rfl
        exact absurd is (by decide)
  have balance : parenBalance ('@' :: (decorator.name ++ decorator.first)) =
      parenBalance decorator.first := by
    rw [← List.cons_append, parenBalance_append, plainName, Int.zero_add]
  have shape : IsEnclosed decorator.first ∨
      ∀ front, front <+: decorator.first → front ≠ [] → 0 < parenBalance front := by
    have enclosed := decorator.enclosed
    cases below : decorator.others with
    | nil =>
      rw [below, List.flatten_nil, List.append_nil] at enclosed
      exact Or.inl enclosed
    | cons row others =>
      have more : row ≠ [] := decorator.filled row (below ▸ List.mem_cons_self)
      right
      intro front begins filled
      refine enclosed.inner front (begins.trans (List.prefix_append _ _)) filled fun whole => ?_
      rw [whole, below, List.flatten_cons] at begins
      have longer := begins.length_le
      have some := List.length_pos_iff.mpr more
      simp only [List.length_append] at longer
      omega
  have balanced : 0 ≤ parenBalance decorator.first := by
    rcases shape with enclosed | opened
    · exact enclosed.closed ▸ Int.le_refl 0
    · exact Int.le_of_lt (opened _ (List.prefix_refl _) nonempty)
  have first := stands.decorator snake rfl
    (splitDecorators_behind_eq_nil decorator.named decorator.opens shape) (by rwa [balance])
  rw [balance] at first
  have next := first.enclosed snake nonempty decorator.filled decorator.enclosed
  rwa [List.append_assoc pending, List.append_assoc] at next

/-- A member adds its property, and leaves neither a hint nor an open parenthesis. -/
theorem Stands.member (state : Keyed Property × RandomStream)
    (stands : scan.Stands [] 0 state.1 state.2) (member : ModelMember) :
    (member.rows.foldl (readLine snake) scan).Stands [] 0 (member.add snake state).1
      (member.add snake state).2 := by
  have comments := stands.comments snake member.commented
  have lead : (member.lead.foldl (readLine snake) scan).Stands (hintText member.lead) 0 state.1
      state.2 := by
    rw [ModelMember.lead, List.foldl_append]
    cases member.decorator with
    | none =>
      rw [Option.map_none, Option.getD_none, List.append_nil]
      exact comments
    | some decorator =>
      have decorated := comments.decorated snake decorator
      rwa [List.nil_append, hintText, hintText, ← List.flatMap_append] at decorated
  have read := lead.field snake member
  rw [hidesField_hintText] at read
  rw [ModelMember.rows, List.foldl_append, ModelMember.add]
  unfold isHidden
  split
  next hides =>
    rw [if_pos hides, if_pos hides] at read
    exact read
  next shown =>
    rw [if_neg shown, if_neg shown] at read
    exact read

theorem Stands.members (state : Keyed Property × RandomStream)
    (stands : scan.Stands [] 0 state.1 state.2) (members : List ModelMember) :
    ((members.flatMap rows).foldl (readLine snake) scan).Stands [] 0
      (members.foldl (add snake) state).1 (members.foldl (add snake) state).2 := by
  induction members generalizing scan state with
  | nil => exact stands
  | cons member others inductionHypothesis =>
    rw [List.flatMap_cons, List.foldl_append]
    exact inductionHypothesis _ (stands.member snake state member)

theorem Stands.frames (stands : scan.Stands [] 0 properties stream) {rows : List (List Char)}
    (frames : ∀ row ∈ rows, IsFrame row) :
    (rows.foldl (readLine snake) scan).Stands [] 0 properties stream := by
  induction rows generalizing scan with
  | nil => exact stands
  | cons row others inductionHypothesis =>
    exact inductionHypothesis (stands.frame snake (frames row List.mem_cons_self))
      fun other member => frames other (List.mem_cons_of_mem row member)

end Members

end ModelScan

/-! ## The model -/

theorem foldl_step_eq_foldl_readLine (snake : Bool) (scan : ModelScan) (lines : List (List Char)) :
    lines.foldl (ModelScan.step snake) scan =
      ((lines.map Text.trim).filter (!·.isEmpty)).foldl (ModelScan.readLine snake) scan := by
  induction lines generalizing scan with
  | nil => rfl
  | cons line others inductionHypothesis =>
    rw [List.foldl_cons, inductionHypothesis, List.map_cons]
    by_cases blank : Text.trim line = []
    · rw [ModelScan.step_of_blank blank, List.filter_cons_of_neg (by simp [blank])]
    · have read : scan.step snake line = scan.readLine snake (Text.trim line) := by
        simp [ModelScan.step, blank]
      rw [read, List.filter_cons_of_pos (by simpa using blank), List.foldl_cons]

section Models

variable {snake : Bool} {source : Source} {opening closing : List (List Char)}
  {members : List ModelMember}

/-- A model is what its members add, one after the other. -/
theorem IsWritten.readModel_eq (written : IsWritten source opening members closing)
    (stream : RandomStream) :
    (readModel snake source stream).1.properties = (ModelMember.addAll snake members stream).1 ∧
      (readModel snake source stream).2 = (ModelMember.addAll snake members stream).2 := by
  have start : (ModelScan.start stream).Stands [] 0 .empty stream := ⟨rfl, rfl, rfl, rfl⟩
  have before := start.frames snake written.opened
  have within := before.members snake (.empty, stream) members
  have behind := within.frames snake written.closed
  rw [← List.foldl_append, ← List.foldl_append, ← List.append_assoc, ← written.rows, Text.rows,
    ← foldl_step_eq_foldl_readLine] at behind
  have kept : ((Text.lines source.text.toList).foldl (ModelScan.step snake)
      (.start stream)).softDelete = false := by
    rw [ModelScan.softDelete_foldl_step]
    exact List.any_eq_false.mpr fun line member => by simp [written.unmarked line member]
  rw [readModel]
  dsimp only
  rw [kept, if_neg Bool.false_ne_true]
  exact ⟨behind.properties, behind.stream⟩

end Models

namespace ModelMember

variable {snake : Bool}

/-- The keys are those of the published fields in the order of their first appearance. -/
theorem keys_addAll (members : List ModelMember) (stream : RandomStream) :
    (addAll snake members stream).1.keys =
      ((members.filter (!·.isHidden)).map (·.key snake)).eraseDups := by
  unfold addAll
  induction members using List.reverseRecOn with
  | nil => rfl
  | append_singleton earlier member inductionHypothesis =>
    rw [List.foldl_concat, List.filter_append, add]
    split
    next hides =>
      rw [List.filter_cons_of_neg (by simp [hides]), List.filter_nil, List.append_nil]
      exact inductionHypothesis
    next shown =>
      rw [List.filter_cons_of_pos (by simp [shown]), List.filter_nil, List.map_append]
      exact Keyed.keys_insert_of_keys_eq inductionHypothesis _ _

/-- Members with other names do not change the property of a name. -/
theorem get?_foldl_add_of_ne {members : List ModelMember} {name : String}
    (apart : ∀ other ∈ members, other.isHidden = false → other.key snake ≠ name)
    (state : Keyed Property × RandomStream) :
    (members.foldl (add snake) state).1.get? name = state.1.get? name := by
  induction members generalizing state with
  | nil => rfl
  | cons member others inductionHypothesis =>
    rw [List.foldl_cons, inductionHypothesis fun other within =>
      apart other (List.mem_cons_of_mem member within), add]
    split
    next => rfl
    next shown =>
      have other := apart member List.mem_cons_self (Bool.eq_false_iff.mpr shown)
      rw [Keyed.get?_insert, if_neg (Ne.symm other)]

/-- The last member of a name determines its property. -/
theorem get?_addAll {before after : List ModelMember} {member : ModelMember}
    (shown : member.isHidden = false)
    (last : ∀ other ∈ after, other.isHidden = false → other.key snake ≠ member.key snake)
    (stream : RandomStream) :
    (addAll snake (before ++ member :: after) stream).1.get? (member.key snake) =
      some (member.read snake (addAll snake before stream).2).1 := by
  rw [addAll, List.foldl_append, List.foldl_cons, get?_foldl_add_of_ne last, add,
    if_neg (Bool.eq_false_iff.mp shown), Keyed.get?_insert, if_pos rfl]
  rfl

end ModelMember

/-- A model of written members has the names of the published fields in the order of their first
appearance, and the last member of a name gives its property.  The property depends on the lines
of that member and on the random stream that the members before it leave in any source. -/
theorem readModel_member_by_member (snake : Bool) {source : Source}
    {opening closing : List (List Char)} {members : List ModelMember}
    (written : IsWritten source opening members closing) (stream : RandomStream) :
    (readModel snake source stream).1.properties.keys =
        ((members.filter (!·.isHidden)).map (·.key snake)).eraseDups ∧
      (readModel snake source stream).2 = (ModelMember.addAll snake members stream).2 ∧
      ∀ before member after, members = before ++ member :: after → member.isHidden = false →
        (∀ other ∈ after, other.isHidden = false → other.key snake ≠ member.key snake) →
          (readModel snake source stream).1.properties.get? (member.key snake) =
            some (member.read snake (ModelMember.addAll snake before stream).2).1 := by
  refine ⟨?_, (written.readModel_eq stream).2, ?_⟩
  · rw [(written.readModel_eq stream).1, ModelMember.keys_addAll]
  · rintro before member after rfl shown last
    rw [(written.readModel_eq stream).1, ModelMember.get?_addAll shown last]

namespace Source

/-- A model whose decorators are written in different ways. -/
def user : Source :=
  ⟨"app/models/user.ts",
    "export default class User extends BaseModel \x7b
  // @example(Ada)
  @column(\x7b
    serialize: (value) =>
      String(value)
  \x7d)
  declare name: string

  @column(\x7b serializeAs: null \x7d)
  declare password: string
  declare name: number;
\x7d
"⟩

/-- A name that a later one replaces. -/
def userName : ModelMember where
  comments := ["// @example(Ada)".toList]
  decorator := some
    { name := "column".toList
      first := "(\x7b".toList
      others := ["serialize: (value) =>".toList, "String(value)".toList, "\x7d)".toList]
      named := List.all_eq_true.mp (by decide)
      opens := by decide
      filled := by decide
      enclosed := by decide +kernel }
  field := "name".toList
  type := "string".toList
  commented := by decide
  filled := by decide
  named := List.forall_iff_forall_mem.mp (by decide)
  typed := List.forall_iff_forall_mem.mp (by decide)
  uninitialized := by decide

/-- A field that its decorator hides. -/
def userPassword : ModelMember where
  comments := []
  decorator := some
    { name := "column".toList
      first := "(\x7b serializeAs: null \x7d)".toList
      others := []
      named := List.all_eq_true.mp (by decide)
      opens := by decide
      filled := by decide
      enclosed := by decide +kernel }
  field := "password".toList
  type := "string".toList
  commented := by decide
  filled := by decide
  named := List.forall_iff_forall_mem.mp (by decide)
  typed := List.forall_iff_forall_mem.mp (by decide)
  uninitialized := by decide

/-- A field without a hint. -/
def userNumber : ModelMember where
  comments := []
  decorator := none
  field := "name".toList
  type := "number;".toList
  commented := by decide
  filled := by decide
  named := List.forall_iff_forall_mem.mp (by decide)
  typed := List.forall_iff_forall_mem.mp (by decide)
  uninitialized := by decide

theorem isWritten_user :
    IsWritten user ["export default class User extends BaseModel \x7b".toList]
      [userName, userPassword, userNumber] ["\x7d".toList] where
  -- The characters of a literal are given at once, and not found by decoding it.
  rows := by
    unfold user
    rw [String.toList_ofList]
    decide +kernel
  opened := by
    intro row member
    rw [List.mem_singleton.mp member]
    exact ⟨by decide, by decide, by decide +kernel⟩
  closed := by
    intro row member
    rw [List.mem_singleton.mp member]
    exact ⟨by decide, by decide, by decide +kernel⟩
  unmarked := by
    unfold user
    rw [String.toList_ofList]
    decide +kernel

end Source

theorem readModel_member_by_member_user :
    IsWritten Source.user ["export default class User extends BaseModel \x7b".toList]
        [Source.userName, Source.userPassword, Source.userNumber] ["\x7d".toList] ∧
      (readModel true Source.user (RandomStream.ofSeed 0)).1.properties.keys = ["name"] ∧
      (readModel true Source.user (RandomStream.ofSeed 0)).1.properties.get? "name" =
        some (Source.userNumber.read true (ModelMember.addAll true
          [Source.userName, Source.userPassword] (RandomStream.ofSeed 0)).2).1 := by
  have read := readModel_member_by_member true Source.isWritten_user (RandomStream.ofSeed 0)
  refine ⟨Source.isWritten_user, ?_, ?_⟩
  · rw [read.1]
    decide +kernel
  · have key : Source.userNumber.key true = "name" := by decide +kernel
    rw [← key]
    exact read.2.2 [Source.userName, Source.userPassword] Source.userNumber [] rfl (by decide) nofun

end Routebook
