import Routebook.Proofs.Catalog.Rule
import Routebook.Proofs.Source.Fields

namespace Routebook

/-!
# Samples and declared types

Where no comment prescribes the sample of a property, three rules compete for it: the table of
well-known names, the sample of the type, and the convention of the name.  A model asks for the
type of a number or a truth value before it looks at the table of names, an interface asks the
table first.  Every entry of that table is a text, so a member of an interface shows a text for a
number or a truth value exactly if its name is in the table and no convention makes it a text.

The rules are compared for a single member and a single field first.  What a scan holds was held
before or is written by the line it reads (`InterfaceScan.held_or_writes_of_step`,
`ModelScan.mem_or_writes_of_step`), so every property of a source is one that a line of the
source writes, and is judged by the comment in front of that line.
-/

/-! ## Samples of a type -/

namespace Sample

/-- The sample is a value of the type, or the sample that a secret does not show. -/
structure Fits (name type : String) (sample : Json) : Prop where
  number : type = "number" ∨ type = "integer" → ∃ value, sample = .number value
  boolean : type = "boolean" → ∃ value, sample = .bool value
  text : type = "string" →
    (∃ value, sample = .text value) ∨ isSecretName name = true ∧ sample = .null

/-- No text is a value of the type: it is a type of numbers or of truth values. -/
def HasNoTexts (type : String) : Prop :=
  type = "number" ∨ type = "integer" ∨ type = "boolean"

instance (type : String) : Decidable (HasNoTexts type) :=
  inferInstanceAs (Decidable (_ ∨ _))

variable {name type : String} {sample : Json} {stream : RandomStream}

theorem fits_text_iff {value : String} : Fits name type (.text value) ↔ ¬ HasNoTexts type := by
  constructor
  · rintro fits (number | integer | boolean)
    · obtain ⟨_, same⟩ := fits.number (.inl number)
      cases same
    · obtain ⟨_, same⟩ := fits.number (.inr integer)
      cases same
    · obtain ⟨_, same⟩ := fits.boolean boolean
      cases same
  · intro texts
    refine ⟨fun numeric => absurd ?_ texts, fun boolean => absurd ?_ texts, fun _ => .inl ⟨_, rfl⟩⟩
    · exact numeric.imp_right .inl
    · exact .inr (.inr boolean)

theorem fits_randomInteger (numeric : type = "number" ∨ type = "integer") :
    Fits name type (randomInteger stream).1 where
  number _ := ⟨_, rfl⟩
  boolean same := by
    subst same
    exact absurd numeric (by decide)
  text same := by
    subst same
    exact absurd numeric (by decide)

theorem fits_true : Fits name "boolean" (.bool true) :=
  ⟨fun numeric => absurd numeric (by decide), fun _ => ⟨true, rfl⟩,
    fun string => absurd string (by decide)⟩

theorem fits_ofType (name type : String) (format : Option String) (stream : RandomStream) :
    Fits name type (ofType type format stream).1 := by
  unfold ofType
  split
  · split <;> exact fits_text_iff.mpr (by decide)
  · split
    · exact ⟨fun _ => ⟨_, rfl⟩, fun boolean => absurd boolean (by decide),
        fun string => absurd string (by decide)⟩
    · exact fits_randomInteger (.inl rfl)
  · exact fits_randomInteger (.inr rfl)
  · exact fits_true
  next string number integer boolean =>
    refine ⟨?_, fun same => absurd same boolean, fun same => absurd same string⟩
    rintro (same | same)
    · exact absurd same number
    · exact absurd same integer

/-- The sample of a well-known name fits every type that has texts, and no other type. -/
theorem fits_of_ofField? (known : ofField? name = some sample) :
    Fits name type sample ↔ ¬ HasNoTexts type := by
  obtain ⟨entry, -, rfl⟩ := Option.map_eq_some_iff.mp known
  exact fits_text_iff

end Sample

/-! ## Conventions -/

/-- The convention of a name leaves a property as it is or makes it a text with a fitting
sample. -/
theorem Property.withConvention_cases (name : String) (property : Property) :
    property.withConvention name = property ∨
      (property.withConvention name).type = .primitive "string" ∧
        Sample.Fits name "string" (property.withConvention name).sample := by
  unfold withConvention
  split
  · exact .inr ⟨rfl, Sample.fits_text_iff.mpr (by decide)⟩
  · split
    next secret =>
      exact .inr ⟨rfl, fun numeric => absurd numeric (by decide),
        fun boolean => absurd boolean (by decide), fun _ => .inr ⟨secret, rfl⟩⟩
    next =>
      split
      next timestamp =>
        have string := beq_iff_eq.mp (Bool.and_eq_true_iff.mp timestamp).2
        exact .inr ⟨string, Sample.fits_text_iff.mpr (by decide)⟩
      next => exact .inl rfl

/-- A rule for the samples of a type, if it lets every text have a text, need only hold before
the convention of the name. -/
theorem Property.fits_withConvention_iff {name type : String} {shape : Property} {rule : Prop}
    (primitive : (shape.withConvention name).type = .primitive type)
    (texts : type = "string" → rule)
    (kept : shape.type = .primitive type → (Sample.Fits name type shape.sample ↔ rule)) :
    Sample.Fits name type (shape.withConvention name).sample ↔ rule := by
  rcases shape.withConvention_cases name with unchanged | ⟨string, fits⟩
  · rw [unchanged] at primitive ⊢
    exact kept primitive
  · obtain rfl := PropertyType.primitive.inj (primitive.symm.trans string)
    exact iff_of_true fits (texts rfl)

/-! ## Members and fields -/

section Readers

variable {hint : Hint} {type : String}

/-- A list of allowed values makes a property a text. -/
theorem type_propertyWith_of_choices (listed : hint.choices ≠ []) (base : List Char) :
    (propertyWith hint base).type = .primitive "string" := by
  rw [propertyWith, if_neg (by simpa using listed)]
  rfl

/-- Without an example, a hint prescribes a text if anything, and only for a text. -/
theorem Hint.sample?_of_plain (plain : hint.sample = [])
    (typed : hint.choices ≠ [] → type = "string") :
    hint.sample? type = .none ∨
      ∃ choice, hint.sample? type = some (.text choice) ∧ type = "string" := by
  rw [sample?, plain, List.isEmpty_nil, if_pos rfl]
  cases listed : hint.choices with
  | nil => exact .inl rfl
  | cons choice others =>
    exact .inr ⟨choice, rfl, typed (by rw [listed]; exact List.cons_ne_nil _ _)⟩

/-- In an interface the table of names comes before the type. -/
theorem fits_memberSample (plain : hint.sample = [])
    (typed : hint.choices ≠ [] → type = "string") (name : String) (format : Option String)
    (stream : RandomStream) :
    Sample.Fits name type (memberSample hint name type format stream).1 ↔
      ¬ (Sample.HasNoTexts type ∧ (Sample.ofField? name).isSome = true) := by
  unfold memberSample
  rcases Hint.sample?_of_plain plain typed with none | ⟨choice, listed, rfl⟩
  · rw [none]
    dsimp only
    cases known : Sample.ofField? name with
    | none => exact iff_of_true (Sample.fits_ofType name type format stream) (by simp)
    | some sample => simpa using Sample.fits_of_ofField? known
  · rw [listed]
    exact iff_of_true (Sample.fits_text_iff.mpr (by decide)) fun both => absurd both.1 (by decide)

/-- In a model the type of a number or a truth value comes before the table of names. -/
theorem fits_fieldSample (plain : hint.sample = [])
    (typed : hint.choices ≠ [] → type = "string") (name : String) (format : Option String)
    (stream : RandomStream) :
    Sample.Fits name type (fieldSample hint name type format stream).1 := by
  unfold fieldSample
  dsimp only
  split
  next boolean => exact beq_iff_eq.mp boolean ▸ Sample.fits_true
  next other =>
    rcases Hint.sample?_of_plain plain typed with none | ⟨choice, listed, rfl⟩
    · rw [none]
      dsimp only
      split
      next numeric => exact Sample.fits_randomInteger (by simpa using numeric)
      next texts =>
        cases known : Sample.ofField? name with
        | none => exact Sample.fits_ofType name type format stream
        | some sample =>
          refine (Sample.fits_of_ofField? known).mpr ?_
          rintro (number | integer | boolean)
          · exact texts (by simp [number])
          · exact texts (by simp [integer])
          · exact other (by simp [boolean])
    · rw [listed]
      exact Sample.fits_text_iff.mpr (by decide)

/-- A member without an example in its hint shows a value of its type, unless its name is in
the table of names and its type has no texts. -/
theorem fits_of_readMember {field written : List Char} {stream : RandomStream} {name : String}
    {property : Property} (read : (readMember field written hint stream).1 = some (name, property))
    (plain : hint.sample = []) (primitive : property.type = .primitive type) :
    Sample.Fits name type property.sample ↔
      ¬ (Sample.HasNoTexts type ∧ (Sample.ofField? name).isSome = true) := by
  have texts : type = "string" →
      ¬ (Sample.HasNoTexts type ∧ (Sample.ofField? name).isSome = true) := by
    rintro rfl both
    exact absurd both.1 (by decide)
  dsimp only [readMember] at read
  split at read
  · cases read
  · split at read
    next base declared =>
      rcases Prod.mk.inj (Option.some.inj read) with ⟨rfl, rfl⟩
      refine Property.fits_withConvention_iff primitive texts fun same => ?_
      obtain rfl := PropertyType.primitive.inj (declared.symm.trans same)
      refine fits_memberSample plain (fun listed => ?_) _ _ _
      have string := type_propertyWith_of_choices listed
        (itemType (withoutNull (memberType written)).1).1
      exact PropertyType.primitive.inj (declared.symm.trans string)
    next reference declared =>
      rcases Prod.mk.inj (Option.some.inj read) with ⟨rfl, rfl⟩
      exact Property.fits_withConvention_iff primitive texts fun same =>
        absurd (declared.symm.trans same) nofun

/-- A list of allowed values makes a field a text, unless it is a relation. -/
theorem type_fieldShape_of_choices {base : List Char} {isCollection : Bool}
    (listed : hint.choices ≠ [])
    (primitive : (fieldShape hint base isCollection).type = .primitive type) : type = "string" := by
  unfold fieldShape at primitive
  split at primitive
  · cases primitive
  · exact PropertyType.primitive.inj
      (primitive.symm.trans (type_propertyWith_of_choices listed (itemType base).1))

/-- A field without an example in its hint shows a value of its type. -/
theorem fits_readField {field : String} {written line : List Char} {stream : RandomStream}
    (plain : hint.sample = [])
    (primitive : (readField field written line hint stream).1.type = .primitive type) :
    Sample.Fits field type (readField field written line hint stream).1.sample := by
  rw [← iff_true (Sample.Fits _ _ _)]
  dsimp only [readField] at primitive ⊢
  split at primitive
  next base declared =>
    refine Property.fits_withConvention_iff primitive (fun _ => trivial) fun same => ?_
    obtain rfl := PropertyType.primitive.inj (declared.symm.trans same)
    have typed := fun listed => type_fieldShape_of_choices listed declared
    exact iff_true_intro (fits_fieldSample plain typed _ _ _)
  next reference declared =>
    exact Property.fits_withConvention_iff primitive (fun _ => trivial) fun same =>
      absurd (declared.symm.trans same) nofun

end Readers

/-! ## Origins -/

/-- What a run holds at its end it held before, or one of its events wrote it in the state in
which the event was met. -/
theorem held_or_written {σ α β : Type} {step : σ → α → σ} (Held : σ → β → Prop)
    (Writes : σ → α → β → Prop)
    (origin : ∀ {state event item}, Held (step state event) item →
      Held state item ∨ Writes state event item)
    {state : σ} {events : List α} {item : β} (held : Held (events.foldl step state) item) :
    Held state item ∨ ∃ before event after, events = before ++ event :: after ∧
      Writes (before.foldl step state) event item := by
  induction events generalizing state with
  | nil => exact .inl held
  | cons first rest inductionHypothesis =>
    rcases inductionHypothesis held with early | ⟨before, event, after, rfl, writes⟩
    · rcases origin early with old | writes
      · exact .inl old
      · exact .inr ⟨[], first, rest, rfl, writes⟩
    · exact .inr ⟨first :: before, event, after, rfl, writes⟩

namespace InterfaceScan

/-- An interface that was seen so far has the property. -/
def Holds (scan : InterfaceScan) (item : String × String × Property) : Prop :=
  ∃ schema ∈ scan.schemas, schema.name = item.1 ∧ item.2 ∈ schema.properties.entries

/-- The line is a member of the interface, outside every object in place, and is read as the
property. -/
inductive Writes (scan : InterfaceScan) (line : List Char) : String × String × Property → Prop
  | member {schema : Schema} {text field type : List Char} {entry : String × Property}
      (code : InterfaceLine.of line = .code text) (current : scan.current = some schema)
      (outside : scan.openObjects = 0) (unclosed : text ≠ ['}'])
      (parted : Text.cutAt? ':' text = some (field, type))
      (read : (readMember field type scan.hint scan.stream).1 = some entry) :
      Writes scan line (schema.name, entry)

theorem Holds.of_schemas_eq {scan next : InterfaceScan} {item : String × String × Property}
    (held : next.Holds item) (same : next.schemas = scan.schemas) : scan.Holds item := by
  rwa [Holds, same] at held

theorem Holds.cases_current (scan : InterfaceScan) {next : InterfaceScan} {schema : Schema}
    {item : String × String × Property} (held : next.Holds item)
    (finished : next.finished = scan.finished) (current : next.current = some schema) :
    scan.Holds item ∨ schema.name = item.1 ∧ item.2 ∈ schema.properties.entries := by
  obtain ⟨other, member, named, entry⟩ := held
  rw [schemas, finished, current] at member
  rcases List.mem_append.mp member with early | last
  · exact .inl ⟨other, List.mem_append.mpr (.inl early), named, entry⟩
  · obtain rfl := List.mem_singleton.mp last
    exact .inr ⟨named, entry⟩

theorem holds_or_writes_of_readCode {scan : InterfaceScan} {schema : Schema}
    {line text : List Char} {item : String × String × Property}
    (code : InterfaceLine.of line = .code text) (current : scan.current = some schema)
    (outside : scan.openObjects = 0) (unclosed : text ≠ ['}'])
    (held : (scan.readCode schema text).Holds item) : scan.Holds item ∨ scan.Writes line item := by
  have old : schema.name = item.1 ∧ item.2 ∈ schema.properties.entries → scan.Holds item :=
    fun entry => ⟨schema, mem_schemas_of_current current, entry⟩
  rw [readCode] at held
  cases parted : Text.cutAt? ':' text with
  | none =>
    rw [parted] at held
    exact .inl held
  | some parts =>
    rw [parted] at held
    cases read : (readMember parts.1 parts.2 scan.hint scan.stream).1 with
    | none =>
      simp only [read] at held
      rcases held.cases_current scan rfl rfl with early | entry
      · exact .inl early
      · exact .inl (old entry)
    | some entry =>
      simp only [read] at held
      rcases held.cases_current scan rfl rfl with early | ⟨named, member⟩
      · exact .inl early
      · rcases item with ⟨name, property⟩
        rcases eq_or_mem_of_mem_insertEntry member with rfl | before
        · obtain rfl : schema.name = name := named
          exact .inr (.member code current outside unclosed parted read)
        · exact .inl (old ⟨named, before⟩)

/-- One line adds no property but the one it is read as. -/
theorem holds_or_writes_of_step {scan : InterfaceScan} {line : List Char}
    {item : String × String × Property} (held : (scan.step line).Holds item) :
    scan.Holds item ∨ scan.Writes line item := by
  rw [step] at held
  cases kind : InterfaceLine.of line with
  | comment text =>
    rw [kind] at held
    exact .inl held
  | header name =>
    rw [kind] at held
    obtain ⟨schema, member, named, entry⟩ := held
    rcases List.mem_append.mp member with early | last
    · exact .inl ⟨schema, early, named, entry⟩
    · obtain rfl := List.mem_singleton.mp last
      cases entry
  | code text =>
    rw [kind] at held
    dsimp only at held
    cases current : scan.current with
    | none =>
      rw [current] at held
      exact .inl (held.of_schemas_eq (by rw [schemas, schemas, current]))
    | some schema =>
      have seen : scan.finished ++ (some schema).toList = scan.schemas := by
        rw [schemas, current]
      rw [current] at held
      dsimp only at held
      split at held
      · split at held
        · exact .inl (held.of_schemas_eq seen)
        · split at held
          · exact .inl (held.of_schemas_eq seen)
          · exact .inl held
      next outside =>
        split at held
        · exact .inl (held.of_schemas_eq (schemas_close scan))
        next unclosed =>
          exact holds_or_writes_of_readCode kind current (Nat.eq_zero_of_not_pos outside)
            (by simpa using unclosed) held

end InterfaceScan

namespace ModelScan

variable {snake : Bool}

/-- The line declares the field in a state in which it is published, and is read as the
property. -/
inductive Writes (snake : Bool) (scan : ModelScan) (line : List Char) : String × Property → Prop
  | field {name type : List Char} (published : scan.Publishes line)
      (declares : splitDeclaration? (splitDecorators (Text.trim line)).2 = some (name, type)) :
      Writes snake scan line (String.ofList (if snake then snakeCase name else name),
        (readField (String.ofList (if snake then snakeCase name else name)) type (Text.trim line)
          (.ofPending scan.pending) scan.stream).1)

/-- One line adds no property but the one it is read as. -/
theorem mem_or_writes_of_step {scan : ModelScan} {line : List Char} {entry : String × Property}
    (member : entry ∈ (scan.step snake line).properties.entries) :
    entry ∈ scan.properties.entries ∨ scan.Writes snake line entry := by
  by_cases blank : Text.trim line = []
  · rw [step_of_blank blank] at member
    exact .inl member
  · rcases step_cases snake scan blank with ⟨_, _, kept⟩ | ⟨reads, read⟩
    · rw [kept] at member
      exact .inl member
    · rw [read] at member
      dsimp only [readDeclaration] at member
      split at member
      · exact .inl member
      next shown =>
        simp only [Bool.or_eq_true, not_or, Bool.not_eq_true] at shown
        obtain ⟨⟨unstatic, hint⟩, decorators⟩ := shown
        cases declares : splitDeclaration? (splitDecorators (Text.trim line)).2 with
        | none =>
          rw [declares] at member
          exact .inl member
        | some parts =>
          rw [declares] at member
          rcases eq_or_mem_of_mem_insertEntry member with rfl | before
          · exact .inr (.field ⟨reads, unstatic, hint, decorators⟩ declares)
          · exact .inl before

end ModelScan

/-! ## Sources -/

/-- A line of the source, read with the hint, writes the property into the interface of the
name. -/
def WrittenMember (source : Source) (stream : RandomStream) (hint : Hint)
    (item : String × String × Property) : Prop :=
  ∃ before line after, logicalLines source.text.toList = before ++ line :: after ∧
    (before.foldl InterfaceScan.step (.start stream)).Writes line item ∧
    (before.foldl InterfaceScan.step (.start stream)).hint = hint

/-- A line of the source, read with the hint, writes the property into the model. -/
def WrittenField (snake : Bool) (source : Source) (stream : RandomStream) (hint : Hint)
    (entry : String × Property) : Prop :=
  ∃ before line after, Text.lines source.text.toList = before ++ line :: after ∧
    (ModelScan.after snake stream before).Writes snake line entry ∧
    .ofPending (ModelScan.after snake stream before).pending = hint

theorem exists_writtenMember {source : Source} {stream : RandomStream} {schema : Schema}
    (seen : schema ∈ (readInterfaces source stream).1) {entry : String × Property}
    (member : entry ∈ schema.properties.entries) :
    ∃ hint, WrittenMember source stream hint (schema.name, entry) := by
  have held : ((logicalLines source.text.toList).foldl InterfaceScan.step (.start stream)).Holds
      (schema.name, entry) := ⟨schema, seen, rfl, member⟩
  rcases held_or_written InterfaceScan.Holds InterfaceScan.Writes
    InterfaceScan.holds_or_writes_of_step held with
    ⟨other, none, -⟩ | ⟨before, line, after, whole, writes⟩
  · cases none
  · exact ⟨_, before, line, after, whole, writes, rfl⟩

theorem exists_writtenField {snake : Bool} {source : Source} {stream : RandomStream}
    {entry : String × Property}
    (member : entry ∈ (readModel snake source stream).1.properties.entries) :
    entry = ("deleted_at", softDeleteProperty) ∨
      ∃ hint, WrittenField snake source stream hint entry := by
  have scanned : entry ∈ ((Text.lines source.text.toList).foldl (ModelScan.step snake)
      (.start stream)).properties.entries →
      ∃ hint, WrittenField snake source stream hint entry := by
    intro held
    rcases held_or_written (fun (scan : ModelScan) entry => entry ∈ scan.properties.entries)
      (ModelScan.Writes snake) ModelScan.mem_or_writes_of_step held
      with none | ⟨before, line, after, whole, writes⟩
    · cases none
    · exact ⟨_, before, line, after, whole, writes, rfl⟩
  dsimp only [readModel] at member
  split at member
  · exact (eq_or_mem_of_mem_insertEntry member).imp_right scanned
  · exact .inr (scanned member)

/-- Every property of an interface or of a model is written by a line of the source, or tells
when a record was deleted.  Without an example above the line, the sample of a model is a value
of the declared type, and the sample of an interface is one unless the type has no texts and the
name is in the table of names. -/
theorem samples_fit_unless_named (source : Source) (stream : RandomStream) :
    (∀ schema ∈ (readInterfaces source stream).1, ∀ entry ∈ schema.properties.entries,
      ∃ hint, WrittenMember source stream hint (schema.name, entry)) ∧
    (∀ (hint : Hint) (schema name type : String) (property : Property),
      WrittenMember source stream hint (schema, name, property) →
      property.type = .primitive type → hint.sample = [] →
        (Sample.Fits name type property.sample ↔
          ¬ (Sample.HasNoTexts type ∧ (Sample.ofField? name).isSome = true))) ∧
    (∀ snake, ∀ entry ∈ (readModel snake source stream).1.properties.entries,
      entry = ("deleted_at", softDeleteProperty) ∨
        ∃ hint, WrittenField snake source stream hint entry) ∧
    (∀ (snake : Bool) (hint : Hint) (name type : String) (property : Property),
      WrittenField snake source stream hint (name, property) →
      property.type = .primitive type → hint.sample = [] →
        Sample.Fits name type property.sample) ∧
    softDeleteProperty.type = .primitive "string" ∧
      Sample.Fits "deleted_at" "string" softDeleteProperty.sample := by
  refine ⟨fun schema seen entry member => exists_writtenMember seen member, ?_,
    fun snake entry member => exists_writtenField member, ?_, rfl,
    Sample.fits_text_iff.mpr (by decide)⟩
  · rintro hint schema name type property ⟨before, line, after, -, writes, rfl⟩ primitive plain
    cases writes with
    | member code current outside unclosed parted read =>
      exact fits_of_readMember read plain primitive
  · rintro snake hint name type property ⟨before, line, after, -, writes, rfl⟩ primitive plain
    cases writes with
    | field published declares => exact fits_readField plain primitive

namespace Source

/-- An interface with a number and a truth value, the latter under a well-known name. -/
def profile : Source :=
  ⟨"app/interfaces/profile.ts",
    "interface Profile \x7b\n  rating: float\n  avatar: boolean\n\x7d\n"⟩

/-- A model with the same truth value. -/
def profileModel : Source :=
  ⟨"app/models/profile.ts", "class Profile \x7b\n  declare avatar: boolean\n\x7d\n"⟩

/-- The number of the profile. -/
def ratingProperty : Property :=
  { Property.ofPrimitive "number" Sample.fractional with format := some "float" }

/-- The truth value of the profile, with the sample of its name. -/
def avatarProperty : Property :=
  .ofPrimitive "boolean" (.text "https://example.com/avatar.png")

open InterfaceScan in
theorem writtenMember_rating :
    WrittenMember profile (.ofSeed 0) .none ("Profile", "rating", ratingProperty) := by
  refine ⟨["interface Profile \x7b".toList], "rating: float".toList,
    ["avatar: boolean".toList, ['\x7d']], by decide +kernel, ?_, by decide +kernel⟩
  have current : (["interface Profile \x7b".toList].foldl step (.start (.ofSeed 0))).current =
      some ⟨"Profile", .interface, .empty⟩ := by
    decide +kernel
  have code : InterfaceLine.of "rating: float".toList = .code "rating: float".toList := by
    decide +kernel
  have parted : Text.cutAt? ':' "rating: float".toList =
      some ("rating".toList, " float".toList) := by
    decide +kernel
  exact .member code current (by decide +kernel) (by decide +kernel) parted (by decide +kernel)

open InterfaceScan in
theorem writtenMember_avatar :
    WrittenMember profile (.ofSeed 0) .none ("Profile", "avatar", avatarProperty) := by
  refine ⟨["interface Profile \x7b".toList, "rating: float".toList], "avatar: boolean".toList,
    [['\x7d']], by decide +kernel, ?_, by decide +kernel⟩
  have current : (["interface Profile \x7b".toList, "rating: float".toList].foldl step
      (.start (.ofSeed 0))).current =
        some ⟨"Profile", .interface, Keyed.empty.insert "rating" ratingProperty⟩ := by
    decide +kernel
  have code : InterfaceLine.of "avatar: boolean".toList = .code "avatar: boolean".toList := by
    decide +kernel
  have parted : Text.cutAt? ':' "avatar: boolean".toList =
      some ("avatar".toList, " boolean".toList) := by
    decide +kernel
  exact .member code current (by decide +kernel) (by decide +kernel) parted (by decide +kernel)

theorem writtenField_avatar :
    WrittenField false profileModel (.ofSeed 0) .none
      ("avatar", .ofPrimitive "boolean" (.bool true)) := by
  refine ⟨["class Profile \x7b".toList], "  declare avatar: boolean".toList, [['\x7d']],
    by decide +kernel, ?_, by decide +kernel⟩
  have published : (ModelScan.after false (.ofSeed 0) ["class Profile \x7b".toList]).Publishes
      "  declare avatar: boolean".toList := by
    refine ⟨?_, by decide +kernel, by decide +kernel, by decide +kernel⟩
    rintro (opened | comment | bare)
    · exact absurd opened (by decide +kernel)
    · exact absurd comment (by decide +kernel)
    · exact absurd bare (by decide +kernel)
  have declares : splitDeclaration?
      (splitDecorators (Text.trim "  declare avatar: boolean".toList)).2 =
        some ("avatar".toList, "boolean".toList) := by
    decide +kernel
  obtain ⟨entry, writes, same⟩ : ∃ entry,
      (ModelScan.after false (.ofSeed 0) ["class Profile \x7b".toList]).Writes false
        "  declare avatar: boolean".toList entry ∧
      entry = ("avatar", .ofPrimitive "boolean" (.bool true)) :=
    ⟨_, .field published declares, by decide +kernel⟩
  exact same ▸ writes

/-- The number has its own sample.  The truth value has the sample of its name in the interface,
and a truth value in the model. -/
theorem samples_fit_in_profile :
    Sample.Fits "rating" "number" ratingProperty.sample ∧
      ¬ Sample.Fits "avatar" "boolean" avatarProperty.sample ∧
      Sample.Fits "avatar" "boolean" (Property.ofPrimitive "boolean" (.bool true)).sample := by
  have interface := samples_fit_unless_named profile (.ofSeed 0)
  have model := samples_fit_unless_named profileModel (.ofSeed 0)
  refine ⟨?_, ?_, ?_⟩
  · exact (interface.2.1 _ _ _ _ _ writtenMember_rating rfl rfl).mpr (by decide +kernel)
  · rw [interface.2.1 _ _ _ _ _ writtenMember_avatar rfl rfl]
    decide +kernel
  · exact model.2.2.2.1 _ _ _ _ _ writtenField_avatar rfl rfl

/-- The truth value of the interface shows a text. -/
theorem avatar_shows_text_for_boolean :
    (¬ ∀ (source : Source) (stream : RandomStream) (hint : Hint) (schema name type : String)
      (property : Property), WrittenMember source stream hint (schema, name, property) →
      property.type = .primitive type → hint.sample = [] →
        Sample.Fits name type property.sample) ∧
    (readInterfaces profile (.ofSeed 0)).1.map (·.properties.entries) =
      [[("rating", ratingProperty), ("avatar", avatarProperty)]] := by
  refine ⟨fun fits => ?_, by decide +kernel⟩
  obtain ⟨value, same⟩ := (fits _ _ _ _ _ _ _ writtenMember_avatar rfl rfl).boolean rfl
  cases same

end Source
end Routebook
