import Routebook.Proofs.Entries
import Routebook.Schema.Catalog

namespace Routebook

/-!
# Rules of the properties of a catalog

Some facts hold of every property of a catalog that was read from sources, whatever the
sources say: no name is empty, no secret shows a sample.  Each is a rule about one name and
one property.  A rule that holds of every member of an interface and of every field of a
model is carried here from line to line, from source to source and into the catalog, so that
a new rule needs a proof about single lines only.
-/

/-- Every property of the schema obeys the rule. -/
def Schema.All (rule : String → Property → Prop) (schema : Schema) : Prop :=
  schema.properties.All rule

instance (rule : String → Property → Prop) [∀ name property, Decidable (rule name property)]
    (schema : Schema) : Decidable (schema.All rule) :=
  inferInstanceAs (Decidable (schema.properties.All rule))

/-- A rule that reading never breaks: it holds of what a member of an interface becomes, of
what a field of a model becomes, and of the time of deletion that a model may be given. -/
structure KeptByReading (rule : String → Property → Prop) : Prop where
  member : ∀ (field type : List Char) (hint : Hint) (stream : RandomStream) (name : String)
    (property : Property),
    (readMember field type hint stream).1 = some (name, property) → rule name property
  field : ∀ (snake : Bool) (declaration name type line : List Char) (hint : Hint)
    (stream : RandomStream), splitDeclaration? declaration = some (name, type) →
    rule (String.ofList (if snake then snakeCase name else name))
      (readField (String.ofList (if snake then snakeCase name else name)) type line hint stream).1
  softDelete : rule "deleted_at" softDeleteProperty

variable {rule : String → Property → Prop}

/-! ## Interfaces -/

namespace InterfaceScan

/-- Every interface seen so far obeys the rule. -/
def All (rule : String → Property → Prop) (scan : InterfaceScan) : Prop :=
  ∀ schema ∈ scan.schemas, schema.All rule

theorem schemas_close (scan : InterfaceScan) : scan.close.schemas = scan.schemas :=
  List.append_nil _

/-- The current interface is one of those seen so far. -/
theorem mem_schemas_of_current {scan : InterfaceScan} {schema : Schema}
    (current : scan.current = some schema) : schema ∈ scan.schemas :=
  List.mem_append.mpr (Or.inr (by rw [current]; exact List.mem_singleton_self schema))

/-- Replacing the current interface by one that obeys the rule keeps the rule. -/
theorem All.replace {scan next : InterfaceScan} {schema : Schema} (kept : scan.All rule)
    (obeys : schema.All rule) (finished : next.finished = scan.finished)
    (current : next.current = some schema) : next.All rule := by
  intro other member
  rw [schemas, finished, current] at member
  rcases List.mem_append.mp member with early | last
  · exact kept other (List.mem_append.mpr (Or.inl early))
  · exact List.mem_singleton.mp last ▸ obeys

theorem All.readCode (reading : KeptByReading rule) {scan : InterfaceScan} {schema : Schema}
    (kept : scan.All rule) (current : scan.current = some schema) (line : List Char) :
    (scan.readCode schema line).All rule := by
  have obeys : schema.All rule := kept schema (mem_schemas_of_current current)
  rw [InterfaceScan.readCode]
  cases Text.cutAt? ':' line with
  | none => exact kept.replace obeys rfl current
  | some parts =>
    refine kept.replace ?_ rfl rfl
    cases read : (readMember parts.1 parts.2 scan.hint scan.stream).1 with
    | none => exact obeys
    | some entry =>
      have written : rule entry.1 entry.2 := reading.member _ _ _ _ _ _ read
      dsimp only
      exact Keyed.All.insert obeys written

/-- One line keeps the rule. -/
theorem All.step (reading : KeptByReading rule) {scan : InterfaceScan} (kept : scan.All rule)
    (line : List Char) : (scan.step line).All rule := by
  rw [InterfaceScan.step]
  cases InterfaceLine.of line with
  | comment text => exact kept
  | header name =>
    intro schema member
    rcases List.mem_append.mp member with early | last
    · exact kept schema early
    · exact List.mem_singleton.mp last ▸ Keyed.all_empty rule
  | code text =>
    cases current : scan.current with
    | none =>
      intro schema member
      exact kept schema (by simpa only [schemas, current] using member)
    | some schema =>
      have obeys : schema.All rule := kept schema (mem_schemas_of_current current)
      dsimp only
      split
      · split
        · exact kept.replace obeys rfl rfl
        · split
          · exact kept.replace obeys rfl rfl
          · exact kept
      · split
        · rw [InterfaceScan.All, schemas_close]
          exact kept
        · exact kept.readCode reading current text

end InterfaceScan

/-- Every interface of a source obeys a rule that reading keeps. -/
theorem all_readInterfaces (reading : KeptByReading rule) (source : Source)
    (stream : RandomStream) :
    ∀ schema ∈ (readInterfaces source stream).1, schema.All rule := by
  have start : (InterfaceScan.start stream).All rule := by
    intro schema member
    cases member
  exact List.foldlRecOn (motive := fun scan => InterfaceScan.All rule scan) _ InterfaceScan.step
    start fun scan kept line _ => kept.step reading line

/-! ## Models -/

namespace ModelScan

theorem all_readDeclaration (reading : KeptByReading rule) {scan : ModelScan}
    (kept : scan.properties.All rule) (snake : Bool) (line decorators declaration : List Char) :
    (scan.readDeclaration snake line decorators declaration).properties.All rule := by
  rw [readDeclaration]
  split
  · exact kept
  · cases split : splitDeclaration? declaration with
    | none => exact kept
    | some parts => exact kept.insert (reading.field _ _ _ _ _ _ _ split)

/-- One line keeps the rule. -/
theorem all_step (reading : KeptByReading rule) {scan : ModelScan}
    (kept : scan.properties.All rule) (snake : Bool) (line : List Char) :
    (scan.step snake line).properties.All rule := by
  dsimp only [step]
  split
  · exact kept
  · dsimp only [readLine]
    split
    · exact kept
    · split
      · exact kept
      · split
        · exact kept
        · have noted : (scan.note (Text.trim line)).properties.All rule := kept
          exact all_readDeclaration reading noted snake _ _ _

end ModelScan

/-- The model of a source obeys a rule that reading keeps. -/
theorem all_readModel (reading : KeptByReading rule) (snake : Bool) (source : Source)
    (stream : RandomStream) : (readModel snake source stream).1.All rule := by
  have scanned : ((Text.lines source.text.toList).foldl (ModelScan.step snake)
      (.start stream)).properties.All rule :=
    List.foldlRecOn (motive := fun scan : ModelScan => scan.properties.All rule) _
      (ModelScan.step snake) (Keyed.all_empty rule)
      fun scan kept line _ => ModelScan.all_step reading kept snake line
  dsimp only [Schema.All, readModel]
  split
  · exact scanned.insert reading.softDelete
  · exact scanned

/-! ## The catalog -/

namespace Catalog

/-- Every property of every schema obeys the rule. -/
def All (rule : String → Property → Prop) (catalog : Catalog) : Prop :=
  ∀ schema ∈ catalog.schemas, schema.All rule

instance (rule : String → Property → Prop) [∀ name property, Decidable (rule name property)]
    (catalog : Catalog) : Decidable (catalog.All rule) :=
  inferInstanceAs (Decidable (∀ schema ∈ catalog.schemas, schema.All rule))

theorem eq_or_mem_of_mem_place {schema member : Schema} {schemas : List Schema}
    (placed : member ∈ place schema schemas) : member = schema ∨ member ∈ schemas := by
  induction schemas with
  | nil => exact Or.inl (List.mem_singleton.mp placed)
  | cons known rest inductionHypothesis =>
    rw [place] at placed
    split at placed
    · exact (List.mem_cons.mp placed).imp_right (List.mem_cons_of_mem known)
    · rcases List.mem_cons.mp placed with same | later
      · exact Or.inr (same ▸ List.mem_cons_self)
      · exact (inductionHypothesis later).imp_right (List.mem_cons_of_mem known)

/-- Adding a schema that obeys the rule keeps the rule. -/
theorem All.insert {catalog : Catalog} (kept : catalog.All rule) {schema : Schema}
    (obeys : schema.All rule) : (catalog.insert schema).All rule := by
  intro member placed
  rcases eq_or_mem_of_mem_place placed with same | old
  · exact same ▸ obeys
  · exact kept member old

theorem All.insertAll {catalog : Catalog} (kept : catalog.All rule) {schemas : List Schema}
    (obey : ∀ schema ∈ schemas, schema.All rule) : (catalog.insertAll schemas).All rule :=
  List.foldlRecOn (motive := fun catalog => Catalog.All rule catalog) _ Catalog.insert kept
    fun _ kept schema member => kept.insert (obey schema member)

theorem all_initial (rule : String → Property → Prop) : initial.All rule := by
  intro schema member
  exact List.mem_singleton.mp member ▸ Keyed.all_empty rule

/-- What is found in the catalog obeys the rule. -/
theorem All.of_get? {catalog : Catalog} (kept : catalog.All rule) {name : String}
    {schema : Schema} (found : catalog.get? name = some schema) : schema.All rule :=
  kept schema (List.mem_of_find?_eq_some found)

/-- The catalog of any sources obeys a rule that reading keeps. -/
theorem all_build (reading : KeptByReading rule) (interfaces models : List Source) (snake : Bool)
    (stream : RandomStream) : (build interfaces models snake stream).All rule := by
  have afterInterfaces : (interfaces.foldl addInterfaces (initial, stream)).1.All rule :=
    List.foldlRecOn (motive := fun state : Catalog × RandomStream => state.1.All rule) _
      addInterfaces (all_initial rule)
      fun state kept source _ => kept.insertAll (all_readInterfaces reading source state.2)
  exact List.foldlRecOn (motive := fun state : Catalog × RandomStream => state.1.All rule) _
    (addModel snake) afterInterfaces
    fun state kept source _ => kept.insert (all_readModel reading snake source state.2)

end Catalog
end Routebook
