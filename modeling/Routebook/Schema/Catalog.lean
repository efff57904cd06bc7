import Routebook.Source.InterfaceText
import Routebook.Source.ModelText

namespace Routebook

/-!
# The catalog of schemas

A catalog holds every schema of a run under its name, beginning with the built-in schema for
any object.  Interfaces come before models, and a later schema replaces an earlier one of the
same name at its place, so that a model wins over an interface.
-/

/-- Schemas with distinct names, in the order in which the names were first added. -/
structure Catalog where
  schemas : List Schema
  distinct : (schemas.map (·.name)).Nodup
  deriving DecidableEq

namespace Catalog

/-- Put a schema at the place of the one with its name, or else at the end. -/
def place (schema : Schema) : List Schema → List Schema
  | [] => [schema]
  | known :: rest => if known.name = schema.name then schema :: rest else known :: place schema rest

/-- A known name stays where it is, a new one comes last. -/
theorem names_place (schema : Schema) (schemas : List Schema) :
    (place schema schemas).map (·.name) =
      if schema.name ∈ schemas.map (·.name) then schemas.map (·.name)
      else schemas.map (·.name) ++ [schema.name] := by
  induction schemas with
  | nil => simp [place]
  | cons known rest inductionHypothesis =>
    rw [place]
    by_cases same : known.name = schema.name
    · simp [same]
    · rw [if_neg same, List.map_cons, inductionHypothesis]
      by_cases present : schema.name ∈ rest.map (·.name)
      · rw [if_pos present, if_pos (by simp_all), List.map_cons]
      · rw [if_neg present, if_neg (by simp_all [Ne.symm same]), List.map_cons, List.cons_append]

theorem nodup_names_place (schema : Schema) {schemas : List Schema}
    (distinct : (schemas.map (·.name)).Nodup) : ((place schema schemas).map (·.name)).Nodup := by
  rw [names_place]
  split
  next => exact distinct
  next fresh =>
    refine List.nodup_append.mpr ⟨distinct, by simp, ?_⟩
    intro known member other single equal
    simp only [List.mem_singleton] at single
    exact fresh (single ▸ equal ▸ member)

def anyName : String := "Any"

/-- The schema for any object has no properties. -/
def anySchema : Schema :=
  ⟨anyName, .builtin, .empty⟩

def initial : Catalog :=
  ⟨[anySchema], by simp⟩

/-- Add a schema, or replace the one with its name. -/
def insert (catalog : Catalog) (schema : Schema) : Catalog :=
  ⟨place schema catalog.schemas, nodup_names_place schema catalog.distinct⟩

def insertAll (catalog : Catalog) (schemas : List Schema) : Catalog :=
  schemas.foldl insert catalog

def get? (catalog : Catalog) (name : String) : Option Schema :=
  catalog.schemas.find? (·.name == name)

def contains (catalog : Catalog) (name : String) : Bool :=
  (catalog.get? name).isSome

def isModel (catalog : Catalog) (name : String) : Bool :=
  (catalog.get? name).any (·.kind == .model)

def addInterfaces (state : Catalog × RandomStream) (source : Source) : Catalog × RandomStream :=
  let (schemas, stream) := readInterfaces source state.2
  (state.1.insertAll schemas, stream)

def addModel (snake : Bool) (state : Catalog × RandomStream) (source : Source) :
    Catalog × RandomStream :=
  let (schema, stream) := readModel snake source state.2
  (state.1.insert schema, stream)

/-- The catalog of interface and model sources.  All samples are drawn from one stream, in the
order of the sources. -/
def build (interfaces models : List Source) (snake : Bool) (stream : RandomStream) : Catalog :=
  (models.foldl (addModel snake) (interfaces.foldl addInterfaces (initial, stream))).1

end Catalog
end Routebook
