import Mathlib.Data.List.Forall2
import Routebook.Keyed

namespace Routebook

/-!
# Entries that are alike

Two runs of the program write the same keys in the same order, and only the values under them may
differ.  A relation of values is carried here to entries and to tables with the same keys, and
every operation on tables keeps it.  What is looked up is related again, or missing on both sides.
-/

section Entries

variable {α β γ δ : Type} {related : α → β → Prop} {other : γ → δ → Prop}

/-! ## Values that may be missing -/

theorem optionRel_refl {related : α → α → Prop} (reflexive : ∀ value, related value value)
    (value : Option α) : Option.Rel related value value := by
  cases value with
  | none => exact .none
  | some value => exact .some (reflexive value)

theorem optionRel_map {first : Option α} {second : Option β} {change : α → γ} {change' : β → δ}
    (values : Option.Rel related first second)
    (keeps : ∀ value value', related value value' → other (change value) (change' value')) :
    Option.Rel other (first.map change) (second.map change') := by
  cases values with
  | some value => exact .some (keeps _ _ value)
  | none => exact .none

theorem optionRel_or {first first' : Option α} {second second' : Option β}
    (values : Option.Rel related first second) (others : Option.Rel related first' second') :
    Option.Rel related (first.or first') (second.or second') := by
  cases values with
  | some value => exact .some value
  | none => exact others

theorem optionRel_getD {first : Option α} {second : Option β} {value : α} {value' : β}
    (values : Option.Rel related first second) (default : related value value') :
    related (first.getD value) (second.getD value') := by
  cases values with
  | some value => exact value
  | none => exact default

theorem forall₂_toList {first : Option α} {second : Option β}
    (values : Option.Rel related first second) :
    List.Forall₂ related first.toList second.toList := by
  cases values with
  | some value => exact .cons value .nil
  | none => exact .nil

theorem isSome_eq_of_optionRel {first : Option α} {second : Option β}
    (values : Option.Rel related first second) : first.isSome = second.isSome := by
  cases values <;> rfl

/-! ## Entries -/

/-- Two entries have the same key, and their values are related. -/
inductive EntryRel (related : α → β → Prop) : String × α → String × β → Prop
  | of (key : String) {first : α} {second : β} (values : related first second) :
    EntryRel related (key, first) (key, second)

/-- Two lists have the same keys in the same order, and the values are related one by one. -/
abbrev EntriesRel (related : α → β → Prop) : List (String × α) → List (String × β) → Prop :=
  List.Forall₂ (EntryRel related)

namespace EntriesRel

variable {first : List (String × α)} {second : List (String × β)}

theorem refl {related : α → α → Prop} (reflexive : ∀ value, related value value)
    (entries : List (String × α)) : EntriesRel related entries entries :=
  List.forall₂_same.mpr fun entry _ => .of entry.1 (reflexive entry.2)

theorem append {first' : List (String × α)} {second' : List (String × β)}
    (before : EntriesRel related first second) (after : EntriesRel related first' second') :
    EntriesRel related (first ++ first') (second ++ second') :=
  List.rel_append before after

theorem insertEntry (entries : EntriesRel related first second) (key : String) {value : α}
    {value' : β} (values : related value value') :
    EntriesRel related (insertEntry key value first) (Routebook.insertEntry key value' second) := by
  induction entries with
  | nil => exact .cons (.of key values) .nil
  | cons head rest inductionHypothesis =>
    rcases head with ⟨known, here⟩
    rw [Routebook.insertEntry, Routebook.insertEntry]
    by_cases same : known = key
    · rw [if_pos same, if_pos same]
      exact .cons (.of key values) rest
    · rw [if_neg same, if_neg same]
      exact .cons (.of known here) inductionHypothesis

theorem entryAt? (entries : EntriesRel related first second) (key : String) :
    Option.Rel related (entryAt? key first) (Routebook.entryAt? key second) := by
  induction entries with
  | nil => exact .none
  | cons head _ inductionHypothesis =>
    rcases head with ⟨known, here⟩
    unfold Routebook.entryAt? at inductionHypothesis ⊢
    rw [List.find?_cons, List.find?_cons]
    cases known == key with
    | true => exact .some here
    | false => exact inductionHypothesis

theorem map {change : α → γ} {change' : β → δ}
    (keeps : ∀ value value', related value value' → other (change value) (change' value'))
    (entries : EntriesRel related first second) :
    EntriesRel other (first.map fun entry => (entry.1, change entry.2))
      (second.map fun entry => (entry.1, change' entry.2)) := by
  refine List.rel_map ?_ entries
  rintro _ _ ⟨key, values⟩
  exact .of key (keeps _ _ values)

/-- Values may be dropped, if they are dropped on both sides. -/
theorem filterMap {change : String → α → Option γ} {change' : String → β → Option δ}
    (keeps : ∀ key value value', related value value' →
      Option.Rel other (change key value) (change' key value'))
    (entries : EntriesRel related first second) :
    EntriesRel other
      (first.filterMap fun entry => (change entry.1 entry.2).map fun value => (entry.1, value))
      (second.filterMap fun entry =>
        (change' entry.1 entry.2).map fun value => (entry.1, value)) := by
  refine List.rel_filterMap ?_ entries
  rintro _ _ ⟨key, values⟩
  exact optionRel_map (keeps key _ _ values) fun _ _ kept => .of key kept

end EntriesRel

end Entries

namespace Keyed

variable {α β γ δ : Type} {related : α → β → Prop} {other : γ → δ → Prop} {first : Keyed α}
  {second : Keyed β}

/-- Two tables have the same keys in the same order, and the values are related. -/
def Rel (related : α → β → Prop) (first : Keyed α) (second : Keyed β) : Prop :=
  EntriesRel related first.entries second.entries

theorem rel_empty : Rel related empty empty := .nil

theorem Rel.refl {related : α → α → Prop} (reflexive : ∀ value, related value value)
    (table : Keyed α) : table.Rel related table :=
  EntriesRel.refl reflexive table.entries

theorem Rel.insert (tables : first.Rel related second) (key : String) {value : α} {value' : β}
    (values : related value value') :
    (first.insert key value).Rel related (second.insert key value') :=
  EntriesRel.insertEntry tables key values

theorem Rel.get? (tables : first.Rel related second) (key : String) :
    Option.Rel related (first.get? key) (second.get? key) :=
  EntriesRel.entryAt? tables key

theorem Rel.contains_eq (tables : first.Rel related second) (key : String) :
    first.contains key = second.contains key :=
  isSome_eq_of_optionRel (tables.get? key)

theorem Rel.map {change : α → γ} {change' : β → δ} (tables : first.Rel related second)
    (keeps : ∀ value value', related value value' → other (change value) (change' value')) :
    (first.map change).Rel other (second.map change') :=
  EntriesRel.map keeps tables

end Keyed
end Routebook
