namespace Routebook

/-!
# Keyed entries

Properties, responses, parameters and paths are entries with a text as key.  They keep the
order in which their keys were first written, because that order is visible in the generated
document.  Writing a key a second time keeps its place and replaces its value.
-/

section Entries

variable {α : Type}

/-- Write an entry: a known key keeps its place, a new one comes last. -/
def insertEntry (key : String) (value : α) : List (String × α) → List (String × α)
  | [] => [(key, value)]
  | entry :: rest =>
    if entry.1 = key then (key, value) :: rest else entry :: insertEntry key value rest

def entryAt? (key : String) (entries : List (String × α)) : Option α :=
  (entries.find? fun entry => entry.1 == key).map (·.2)

def entryKeys (entries : List (String × α)) : List String :=
  entries.map (·.1)

/-- A known key stays where it is, a new one comes last. -/
theorem entryKeys_insertEntry (key : String) (value : α) (entries : List (String × α)) :
    entryKeys (insertEntry key value entries) =
      if key ∈ entryKeys entries then entryKeys entries else entryKeys entries ++ [key] := by
  induction entries with
  | nil => simp [insertEntry, entryKeys]
  | cons entry rest inductionHypothesis =>
    rw [insertEntry]
    by_cases same : entry.1 = key
    · simp [entryKeys, same]
    · simp only [entryKeys, if_neg same, List.map_cons] at inductionHypothesis ⊢
      rw [inductionHypothesis]
      by_cases known : key ∈ rest.map (·.1) <;> simp [known, Ne.symm same]

/-- Writing an entry keeps the keys distinct. -/
theorem nodup_entryKeys_insertEntry (key : String) (value : α) {entries : List (String × α)}
    (distinct : (entryKeys entries).Nodup) : (entryKeys (insertEntry key value entries)).Nodup := by
  rw [entryKeys_insertEntry]
  split
  next => exact distinct
  next fresh =>
    refine List.nodup_append.mpr ⟨distinct, by simp, ?_⟩
    intro known member other single equal
    simp only [List.mem_singleton] at single
    exact fresh (single ▸ equal ▸ member)

end Entries

/-- Entries with distinct keys, in the order in which the keys were first written. -/
structure Keyed (α : Type) where
  entries : List (String × α)
  distinct : (entryKeys entries).Nodup
  deriving DecidableEq

namespace Keyed

variable {α β : Type}

def empty : Keyed α :=
  ⟨[], by simp [entryKeys]⟩

instance : Inhabited (Keyed α) :=
  ⟨empty⟩

def insert (table : Keyed α) (key : String) (value : α) : Keyed α :=
  ⟨insertEntry key value table.entries, nodup_entryKeys_insertEntry key value table.distinct⟩

def insertAll (table : Keyed α) (entries : List (String × α)) : Keyed α :=
  entries.foldl (fun table entry => table.insert entry.1 entry.2) table

/-- The entries of a list, the last value of a repeated key at its first place. -/
def ofList (entries : List (String × α)) : Keyed α :=
  empty.insertAll entries

def get? (table : Keyed α) (key : String) : Option α :=
  entryAt? key table.entries

def contains (table : Keyed α) (key : String) : Bool :=
  (table.get? key).isSome

def keys (table : Keyed α) : List String :=
  entryKeys table.entries

def values (table : Keyed α) : List α :=
  table.entries.map (·.2)

def map (f : α → β) (table : Keyed α) : Keyed β :=
  ⟨table.entries.map fun entry => (entry.1, f entry.2), by
    simpa [entryKeys, Function.comp_def] using table.distinct⟩

def size (table : Keyed α) : Nat :=
  table.entries.length

def isEmpty (table : Keyed α) : Bool :=
  table.entries.isEmpty

end Keyed
end Routebook
