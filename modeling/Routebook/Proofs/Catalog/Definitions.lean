import Routebook.Document.SchemaObject
import Routebook.Proofs.Entries

namespace Routebook

/-!
# Definitions of a catalog

Schemas are added to a catalog one after the other, and a name may be defined more than once:
by several interfaces, by several models, or by both.  Nothing is reported to a reader of the
document, so what the catalog holds has to follow from the row of definitions alone.  It does:
the catalog is the table that is left if every definition is written under its name.

`Catalog.Holds` lists what that means for each question that is asked of a catalog.  The
schemas of sources are such a row, with all interfaces before all models.
-/

/-- The schema under its name. -/
def Schema.entry (schema : Schema) : String × Schema :=
  (schema.name, schema)

namespace Catalog

/-! ## The catalog as a table -/

/-- The schemas of a catalog with their names as keys. -/
def table (catalog : Catalog) : Keyed Schema :=
  ⟨catalog.schemas.map Schema.entry, by
    simpa [entryKeys, Function.comp_def, Schema.entry] using catalog.distinct⟩

theorem keys_table (catalog : Catalog) : catalog.table.keys = catalog.schemas.map (·.name) := by
  simp [table, Keyed.keys, entryKeys, Schema.entry]

theorem get?_table (catalog : Catalog) (name : String) :
    catalog.table.get? name = catalog.get? name := by
  rw [Keyed.get?, table, entryAt?, List.find?_map, Option.map_map, get?]
  exact Option.map_id'

theorem entries_place (schema : Schema) (schemas : List Schema) :
    (place schema schemas).map Schema.entry =
      insertEntry schema.name schema (schemas.map Schema.entry) := by
  induction schemas with
  | nil => rfl
  | cons known rest inductionHypothesis =>
    rw [place, List.map_cons, insertEntry]
    by_cases same : known.name = schema.name
    · simp [same, Schema.entry]
    · simp [same, Schema.entry, ← inductionHypothesis]

/-- Adding a schema is writing it under its name. -/
theorem table_insert (catalog : Catalog) (schema : Schema) :
    (catalog.insert schema).table = catalog.table.insert schema.name schema := by
  have entries := entries_place schema catalog.schemas
  simp only [table, insert, Keyed.insert, entries]

theorem get?_insert (catalog : Catalog) (schema : Schema) (name : String) :
    (catalog.insert schema).get? name =
      if name = schema.name then some schema else catalog.get? name := by
  rw [← get?_table, table_insert, Keyed.get?_insert, get?_table]

theorem table_insertAll (catalog : Catalog) (schemas : List Schema) :
    (catalog.insertAll schemas).table = catalog.table.insertAll (schemas.map Schema.entry) := by
  unfold insertAll Keyed.insertAll
  induction schemas generalizing catalog with
  | nil => rfl
  | cons first rest inductionHypothesis =>
    rw [List.foldl_cons, inductionHypothesis, table_insert]
    rfl

theorem table_initial_insertAll (schemas : List Schema) :
    (initial.insertAll schemas).table = .ofList ((anySchema :: schemas).map Schema.entry) := by
  rw [table_insertAll]
  rfl

/-! ## Components -/

/-- The component under a name describes the schema of that name. -/
theorem entryAt?_components (catalog : Catalog) (name : String) :
    entryAt? name catalog.components = (catalog.get? name).map SchemaObject.ofSchema := by
  rw [components, entryAt?, List.find?_map, Option.map_map]
  rfl

theorem keys_components (catalog : Catalog) :
    entryKeys catalog.components = catalog.schemas.map (·.name) := by
  simp [components, entryKeys]

/-- The properties of a component have the keys of its schema. -/
theorem keys_ofSchema (schema : Schema) :
    (SchemaObject.ofSchema schema).properties.map entryKeys = some schema.properties.keys := by
  simp [SchemaObject.ofSchema, Keyed.keys, entryKeys, Function.comp_def]

/-! ## The last definition of a name -/

/-- The last of some definitions of a name. -/
def lastDefinition? (definitions : List Schema) (name : String) : Option Schema :=
  definitions.reverse.find? (·.name == name)

theorem lastAt?_entries (definitions : List Schema) (name : String) :
    lastAt? name (definitions.map Schema.entry) = lastDefinition? definitions name := by
  rw [lastAt?, ← List.map_reverse, entryAt?, List.find?_map, Option.map_map]
  exact Option.map_id'

theorem lastDefinition?_append (before after : List Schema) (name : String) :
    lastDefinition? (before ++ after) name =
      (lastDefinition? after name).or (lastDefinition? before name) := by
  rw [lastDefinition?, List.reverse_append, List.find?_append]
  rfl

theorem isSome_lastDefinition?_iff {definitions : List Schema} {name : String} :
    (lastDefinition? definitions name).isSome = true ↔ name ∈ definitions.map (·.name) := by
  simp [lastDefinition?]

/-- What a catalog holds of definitions. -/
structure Holds (catalog : Catalog) (definitions : List Schema) : Prop where
  /-- It is the table of the definitions, each written under its name. -/
  written : catalog.table = .ofList (definitions.map Schema.entry)
  /-- What stands under a key has the key as its name. -/
  named : ∀ entry ∈ catalog.table.entries, entry.2.name = entry.1
  distinct : (catalog.schemas.map (·.name)).Nodup
  /-- Names stand in the order of their first definitions. -/
  ordered : catalog.schemas.map (·.name) = (definitions.map (·.name)).eraseDups
  /-- A name has its last definition. -/
  last : ∀ name, catalog.get? name = lastDefinition? definitions name
  model : ∀ name, catalog.isModel name = true ↔
    ∃ schema, lastDefinition? definitions name = some schema ∧ schema.kind = .model
  /-- There is one component for each name, in the order of the names. -/
  components : entryKeys catalog.components = catalog.schemas.map (·.name)
  /-- The component of a name has the properties of its last definition. -/
  properties : ∀ name,
    (entryAt? name catalog.components).map (fun component => component.properties.map entryKeys) =
      (lastDefinition? definitions name).map fun schema => some schema.properties.keys

theorem holds_of_written {catalog : Catalog} {definitions : List Schema}
    (written : catalog.table = .ofList (definitions.map Schema.entry)) :
    catalog.Holds definitions := by
  have overlays : catalog.table.Overlays (definitions.map Schema.entry) :=
    written ▸ Keyed.overlays_ofList _
  have last : ∀ name, catalog.get? name = lastDefinition? definitions name := by
    intro name
    rw [← get?_table, overlays.value, lastAt?_entries]
  refine ⟨written, ?_, catalog.distinct, ?_, last, ?_, keys_components catalog, ?_⟩
  · intro entry member
    rcases List.mem_map.mp member with ⟨schema, _, rfl⟩
    rfl
  · rw [← keys_table, overlays.keys, entryKeys, List.map_map]
    rfl
  · intro name
    rw [isModel, last, Option.any_eq_true]
    simp only [beq_iff_eq]
  · intro name
    rw [entryAt?_components, last, Option.map_map]
    exact congrArg (Option.map · _) (funext keys_ofSchema)

/-- A catalog that starts from the built-in schema holds what is added to it. -/
theorem holds_insertAll (schemas : List Schema) :
    (initial.insertAll schemas).Holds (anySchema :: schemas) :=
  holds_of_written (table_initial_insertAll schemas)

/-! ## Other names -/

theorem schemas_insertAll (catalog : Catalog) (schemas : List Schema) :
    (catalog.insertAll schemas).schemas =
      schemas.foldl (fun known schema => place schema known) catalog.schemas := by
  unfold insertAll
  induction schemas generalizing catalog with
  | nil => rfl
  | cons first rest inductionHypothesis => exact inductionHypothesis (catalog.insert first)

section Frame

variable (keep : String → Bool)

theorem filter_place (schema : Schema) (schemas : List Schema) :
    (place schema schemas).filter (keep ·.name) =
      if keep schema.name then place schema (schemas.filter (keep ·.name))
      else schemas.filter (keep ·.name) := by
  induction schemas with
  | nil => cases kept : keep schema.name <;> simp [place, kept]
  | cons known rest inductionHypothesis =>
    rw [place]
    by_cases same : known.name = schema.name
    · cases kept : keep schema.name <;> simp [place, same, kept]
    · rw [if_neg same, List.filter_cons, List.filter_cons, inductionHypothesis]
      cases kept : keep schema.name <;> cases known' : keep known.name <;> simp [place, same]

/-- Of a row of definitions those with some names can be left out, and the entries of all
other names are what they were, at the places they had. -/
theorem filter_insertAll (catalog : Catalog) (schemas : List Schema) :
    (catalog.insertAll schemas).schemas.filter (keep ·.name) =
      (schemas.filter (keep ·.name)).foldl (fun known schema => place schema known)
        (catalog.schemas.filter (keep ·.name)) := by
  rw [schemas_insertAll]
  generalize catalog.schemas = known
  induction schemas generalizing known with
  | nil => rfl
  | cons first rest inductionHypothesis =>
    rw [List.foldl_cons, inductionHypothesis, filter_place, List.filter_cons]
    cases keep first.name <;> rfl

end Frame

/-- A definition of a name that no other definition has only adds its own entry. -/
theorem filter_insertAll_of_fresh {before after : List Schema} {schema : Schema}
    (fresh : schema.name ∉ (anySchema :: (before ++ after)).map (·.name)) :
    (initial.insertAll (before ++ schema :: after)).schemas.filter (·.name ≠ schema.name) =
      (initial.insertAll (before ++ after)).schemas := by
  have others : ∀ other ∈ anySchema :: (before ++ after), other.name ≠ schema.name :=
    fun other member same => fresh (List.mem_map.mpr ⟨other, member, same⟩)
  -- The definition is the only one that the filter takes away.
  have start : initial.schemas.filter (fun other => decide (other.name ≠ schema.name)) =
      initial.schemas := by
    rw [List.filter_eq_self]
    intro other member
    rw [List.mem_singleton.mp member]
    exact decide_eq_true (others _ List.mem_cons_self)
  have rest : (before ++ schema :: after).filter (fun other => decide (other.name ≠ schema.name)) =
      before ++ after := by
    have kept : (before ++ after).filter (fun other => decide (other.name ≠ schema.name)) =
        before ++ after := by
      rw [List.filter_eq_self]
      intro other member
      exact decide_eq_true (others other (List.mem_cons_of_mem _ member))
    rw [List.filter_append, List.filter_cons_of_neg (by simp), ← List.filter_append, kept]
  rw [filter_insertAll (fun name => decide (name ≠ schema.name)), start, rest, schemas_insertAll]

/-! ## Definitions of sources -/

/-- The schemas of sources in order.  Each source is read with the random stream that the one
before it leaves behind. -/
def readAll (read : Source → RandomStream → List Schema × RandomStream) :
    List Source → RandomStream → List Schema × RandomStream
  | [], stream => ([], stream)
  | source :: rest, stream =>
    let (schemas, between) := read source stream
    let (later, behind) := readAll read rest between
    (schemas ++ later, behind)

/-- The one schema of a model. -/
def readSingle (snake : Bool) (source : Source) (stream : RandomStream) :
    List Schema × RandomStream :=
  let (schema, behind) := readModel snake source stream
  ([schema], behind)

/-- Adding what each source defines is adding what all of them define. -/
theorem foldl_insertAll (read : Source → RandomStream → List Schema × RandomStream)
    (sources : List Source) (catalog : Catalog) (stream : RandomStream) :
    sources.foldl (fun state source =>
        (state.1.insertAll (read source state.2).1, (read source state.2).2)) (catalog, stream) =
      (catalog.insertAll (readAll read sources stream).1, (readAll read sources stream).2) := by
  induction sources generalizing catalog stream with
  | nil => rfl
  | cons first rest inductionHypothesis =>
    rw [List.foldl_cons, inductionHypothesis, readAll, insertAll, insertAll, insertAll,
      List.foldl_append]

/-- The interfaces of sources. -/
def interfaces (sources : List Source) (stream : RandomStream) : List Schema :=
  (readAll readInterfaces sources stream).1

/-- The models of sources, whose samples are drawn behind those of the interfaces. -/
def models (snake : Bool) (interfaceSources modelSources : List Source) (stream : RandomStream) :
    List Schema :=
  (readAll (readSingle snake) modelSources (readAll readInterfaces interfaceSources stream).2).1

/-- A catalog of sources has their interfaces added first and their models behind them. -/
theorem build_eq (interfaceSources modelSources : List Source) (snake : Bool)
    (stream : RandomStream) :
    build interfaceSources modelSources snake stream =
      initial.insertAll (interfaces interfaceSources stream ++
        models snake interfaceSources modelSources stream) := by
  have first : interfaceSources.foldl addInterfaces (initial, stream) =
      (initial.insertAll (interfaces interfaceSources stream),
        (readAll readInterfaces interfaceSources stream).2) :=
    foldl_insertAll readInterfaces interfaceSources initial stream
  have second (state : Catalog × RandomStream) : (modelSources.foldl (addModel snake) state).1 =
      state.1.insertAll (readAll (readSingle snake) modelSources state.2).1 :=
    congrArg Prod.fst (foldl_insertAll (readSingle snake) modelSources state.1 state.2)
  rw [build, first, second, insertAll, insertAll, insertAll, List.foldl_append]
  rfl

theorem kind_of_mem_models {snake : Bool} {interfaceSources modelSources : List Source}
    {stream : RandomStream} {schema : Schema}
    (member : schema ∈ models snake interfaceSources modelSources stream) :
    schema.kind = .model := by
  unfold models at member
  generalize (readAll readInterfaces interfaceSources stream).2 = behind at member
  induction modelSources generalizing behind with
  | nil => cases member
  | cons first rest inductionHypothesis =>
    rcases List.mem_cons.mp member with same | later
    · exact same ▸ rfl
    · exact inductionHypothesis _ later

/-- A name that a model defines has the last such model, whatever interfaces define it. -/
theorem get?_build_of_model {snake : Bool} {interfaceSources modelSources : List Source}
    {stream : RandomStream} {name : String}
    (defined : name ∈ (models snake interfaceSources modelSources stream).map (·.name)) :
    ∃ model, lastDefinition? (models snake interfaceSources modelSources stream) name = some model ∧
      model.kind = .model ∧
      (build interfaceSources modelSources snake stream).get? name = some model := by
  rcases Option.isSome_iff_exists.mp (isSome_lastDefinition?_iff.mpr defined) with ⟨model, last⟩
  have member : model ∈ models snake interfaceSources modelSources stream :=
    List.mem_reverse.mp (List.mem_of_find?_eq_some last)
  refine ⟨model, last, kind_of_mem_models member, ?_⟩
  rw [build_eq, (holds_insertAll _).last, ← List.cons_append, lastDefinition?_append, last]
  rfl

/-- After any row of definitions a catalog holds them under their names, and so does the
catalog of any sources, where the last model of a name goes before every interface.  The
built-in schema is always there.  A definition with a name of its own leaves all others as
they are. -/
theorem definitions_held_by_name :
    (∀ schemas, (initial.insertAll schemas).Holds (anySchema :: schemas) ∧
      (initial.insertAll schemas).contains anyName = true) ∧
    (∀ interfaceSources modelSources snake stream,
      let defined := models snake interfaceSources modelSources stream
      let catalog := build interfaceSources modelSources snake stream
      catalog.Holds (anySchema :: (interfaces interfaceSources stream ++ defined)) ∧
      ∀ name ∈ defined.map (·.name), ∃ model, lastDefinition? defined name = some model ∧
        model.kind = .model ∧ catalog.get? name = some model) ∧
    ∀ before after schema, schema.name ∉ (anySchema :: (before ++ after)).map (·.name) →
      (initial.insertAll (before ++ schema :: after)).schemas.filter (·.name ≠ schema.name) =
        (initial.insertAll (before ++ after)).schemas := by
  refine ⟨?_, ?_, ?_⟩
  · intro schemas
    refine ⟨holds_insertAll schemas, ?_⟩
    rw [contains, (holds_insertAll schemas).last, isSome_lastDefinition?_iff]
    exact List.mem_cons_self
  · intro interfaceSources modelSources snake stream
    refine ⟨?_, fun name defined => get?_build_of_model defined⟩
    rw [build_eq]
    exact holds_insertAll _
  · intro before after schema fresh
    exact filter_insertAll_of_fresh fresh

/-- An interface and a model of the same name. -/
def userInterface : Source :=
  ⟨"user.ts", "interface User \x7b nickname: string \x7d"⟩

def userModel : Source :=
  ⟨"user.ts", "class User \x7b\ndeclare id: string\n\x7d"⟩

/-- The model of a user wins over the interface, and an interface of posts that is added before
it leaves the user where it is. -/
theorem definitions_held_by_name_user :
    let defined := models false [userInterface] [userModel] (.ofSeed 0)
    let catalog := build [userInterface] [userModel] false (.ofSeed 0)
    let post : Schema := ⟨"Post", .interface, .empty⟩
    "User" ∈ (interfaces [userInterface] (.ofSeed 0)).map (·.name) ∧
    "User" ∈ defined.map (·.name) ∧
    (∃ model, lastDefinition? defined "User" = some model ∧ model.kind = .model ∧
      catalog.get? "User" = some model) ∧
    post.name ∉ (anySchema :: ([] ++ defined)).map (·.name) ∧
    (initial.insertAll ([] ++ post :: defined)).schemas.filter (·.name ≠ post.name) =
      (initial.insertAll ([] ++ defined)).schemas := by
  intro defined catalog post
  have known : "User" ∈ defined.map (·.name) := by decide +kernel
  have fresh : post.name ∉ (anySchema :: ([] ++ defined)).map (·.name) := by decide +kernel
  have held := definitions_held_by_name
  refine ⟨by decide +kernel, known, ?_, fresh, held.2.2 [] defined post fresh⟩
  exact (held.2.1 [userInterface] [userModel] false (.ofSeed 0)).2 "User" known

end Catalog
end Routebook
