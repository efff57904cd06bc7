import Routebook.Proofs.Expansion.Hops

namespace Routebook

/-!
# What a filter shows

The filter of an example decides about a field by the field's name and by its path.  This
module states the decision as conditions on the entries of the filter alone, for a field
behind any row of hops, and proves that the filter decides by them.

Two conditions make a field visible.  It must be shown, which no type can change; and if it
is a relation to a model, it must be requested.  At the outermost level a selection replaces
both: a selected field is visible whatever else the filter says, and no other field is.
-/

/-- The entry names something further along the path. -/
def Continues (path entry : String) : Prop :=
  (path ++ ".").toList <+: entry.toList

instance (path entry : String) : Decidable (Continues path entry) :=
  inferInstanceAs (Decidable ((path ++ ".").toList <+: entry.toList))

/-- An entry reaches a path if it is the path or continues it. -/
theorem reaches_iff {path entry : String} :
    Filter.reaches path entry = true ↔ entry = path ∨ Continues path entry := by
  unfold Filter.reaches Continues
  cases stripped : Text.stripStart? path.toList entry.toList with
  | none =>
    have apart : ∀ rest, entry.toList ≠ path.toList ++ rest := by
      intro rest whole
      rw [Text.stripStart?_eq_some_iff.mpr whole] at stripped
      cases stripped
    constructor
    · intro impossible
      cases impossible
    · rintro (same | ⟨rest, whole⟩)
      · exact absurd (by rw [same, List.append_nil]) (apart [])
      · exact absurd (by rw [← whole, String.toList_append, List.append_assoc]) (apart _)
  | some rest =>
    have whole := Text.stripStart?_eq_some_iff.mp stripped
    have same : entry = path ↔ rest = [] := by
      rw [← String.toList_inj, whole, List.append_right_eq_self]
    have further : (path ++ ".").toList <+: entry.toList ↔ rest.head? = some '.' := by
      rw [whole, String.toList_append, List.prefix_append_right_inj]
      cases rest with
      | nil => simp
      | cons c rest => simp [List.cons_prefix_cons, eq_comm]
    rw [same, further]
    cases rest <;> simp

namespace Filter

/-! ## Conditions -/

/-- The path or something further along it is included. -/
def NamesPath (filter : Filter) (path : String) : Prop :=
  path ∈ filter.included ∨ ∃ entry ∈ filter.included, Continues path entry

/-- Neither the field nor its path is excluded, a secret is named, and a time stamp is not
excluded with all others. -/
def Admits (filter : Filter) (hops : Hops) (key : String) : Prop :=
  (key ∉ filter.excluded ∧ Hops.path (hops ++ [key]) ∉ filter.excluded) ∧
    (isSecretName key = true → key ∈ filter.included ∨ key ∈ filter.selected) ∧
    (isTimestampName key = true → "timestamps" ∉ filter.excluded)

/-- The field is shown whatever its type.  A selection decides alone about the outermost
fields. -/
def Shown (filter : Filter) (hops : Hops) (key : String) : Prop :=
  if hops = [] ∧ filter.selected ≠ [] then key ∈ filter.selected else filter.Admits hops key

/-- A relation to a model is requested: by its path, or by all relations of what encloses
it.  At the outermost level a selected relation needs no request. -/
def Requested (filter : Filter) (hops : Hops) (key : String) : Prop :=
  if hops = [] then
    key ∈ filter.selected ∨ "relations" ∈ filter.included ∨ filter.NamesPath key
  else
    filter.NamesPath (Hops.path (hops ++ [key])) ∨ hops.path ++ ".relations" ∈ filter.included

instance (filter : Filter) (path : String) : Decidable (filter.NamesPath path) :=
  inferInstanceAs (Decidable (path ∈ filter.included ∨
    ∃ entry ∈ filter.included, Continues path entry))

instance (filter : Filter) (hops : Hops) (key : String) : Decidable (filter.Admits hops key) :=
  inferInstanceAs (Decidable (
    (key ∉ filter.excluded ∧ Hops.path (hops ++ [key]) ∉ filter.excluded) ∧
      (isSecretName key = true → key ∈ filter.included ∨ key ∈ filter.selected) ∧
      (isTimestampName key = true → "timestamps" ∉ filter.excluded)))

instance (filter : Filter) (hops : Hops) (key : String) : Decidable (filter.Shown hops key) :=
  inferInstanceAs (Decidable (
    if hops = [] ∧ filter.selected ≠ [] then key ∈ filter.selected else filter.Admits hops key))

instance (filter : Filter) (hops : Hops) (key : String) : Decidable (filter.Requested hops key) :=
  inferInstanceAs (Decidable (
    if hops = [] then
      key ∈ filter.selected ∨ "relations" ∈ filter.included ∨ filter.NamesPath key
    else
      filter.NamesPath (Hops.path (hops ++ [key])) ∨
        hops.path ++ ".relations" ∈ filter.included))

/-! ## Decisions -/

theorem includesPath_iff {filter : Filter} {path : String} :
    filter.includesPath path = true ↔ filter.NamesPath path := by
  rw [includesPath, List.any_eq_true]
  constructor
  · rintro ⟨entry, member, reached⟩
    rcases reaches_iff.mp reached with same | further
    · exact Or.inl (same ▸ member)
    · exact Or.inr ⟨entry, member, further⟩
  · rintro (member | ⟨entry, member, further⟩)
    · exact ⟨path, member, reaches_iff.mpr (Or.inl rfl)⟩
    · exact ⟨entry, member, reaches_iff.mpr (Or.inr further)⟩

theorem excludes_iff {filter : Filter} {hops : Hops} (named : hops.Named) {key : String} :
    filter.excludes hops key = true ↔
      key ∈ filter.excluded ∨ Hops.path (hops ++ [key]) ∈ filter.excluded := by
  unfold excludes
  by_cases root : hops = []
  · subst root
    simp
  · simp [Hops.isRoot_eq_false named root, Hops.path_concat root]

/-- Without a selection the decision on a field is that it is admitted. -/
theorem admits_iff {filter : Filter} {hops : Hops} (named : hops.Named) {key : String} :
    (filter.excludes hops key || filter.hidesSecret key || filter.dropsTimestamp key) = false ↔
      filter.Admits hops key := by
  have notExcluded : filter.excludes hops key = false ↔
      key ∉ filter.excluded ∧ Hops.path (hops ++ [key]) ∉ filter.excluded := by
    rw [Bool.eq_false_iff, Ne, excludes_iff named, not_or]
  have notHidden : filter.hidesSecret key = false ↔
      (isSecretName key = true → key ∈ filter.included ∨ key ∈ filter.selected) := by
    cases secret : isSecretName key <;> simp [hidesSecret, secret, Decidable.imp_iff_not_or]
  have notDropped : filter.dropsTimestamp key = false ↔
      (isTimestampName key = true → "timestamps" ∉ filter.excluded) := by
    cases stamp : isTimestampName key <;> simp [dropsTimestamp, stamp]
  rw [Bool.or_eq_false_iff, Bool.or_eq_false_iff, notExcluded, notHidden, notDropped, Admits,
    and_assoc]

/-- The filter shows a field exactly under its conditions. -/
theorem shows_iff {filter : Filter} {hops : Hops} (named : hops.Named) {key : String} :
    filter.shows hops key = true ↔ filter.Shown hops key := by
  have admitted : (filter.excludes hops key || filter.hidesSecret key ||
      filter.dropsTimestamp key) = false ↔ filter.Admits hops key := admits_iff named
  unfold shows selects Shown
  by_cases root : hops = []
  · subst root
    by_cases none : filter.selected = []
    · simp [none, ← admitted]
    · simp [none]
  · simp [Hops.isRoot_eq_false named root, root, ← admitted]

/-- A branch within a relation is requested exactly under its condition.  For two hops the
first hop is all that encloses the last one, so asking for its relations is nothing new. -/
theorem requestsBranch_iff {filter : Filter} {hops : Hops} (nonempty : hops ≠ []) {key : String}
    (free : '.' ∉ key.toList) :
    filter.requestsBranch (hops ++ [key]) = true ↔ filter.Requested hops key := by
  have first : (hops ++ [key]).length = 2 → (hops ++ [key]).headD "" = hops.path := by
    intro two
    rcases List.length_eq_one_iff.mp
      (show hops.length = 1 by simpa using two) with ⟨only, single⟩
    rw [single]
    exact (Hops.path_singleton only).symm
  unfold requestsBranch Requested
  rw [if_neg nonempty, Bool.or_eq_true, Bool.or_eq_true, includesPath_iff,
    Hops.enclosing_concat nonempty free, List.contains_iff_mem, Bool.and_eq_true, beq_iff_eq,
    List.contains_iff_mem]
  constructor
  · rintro ((named | all) | ⟨two, all⟩)
    · exact Or.inl named
    · exact Or.inr all
    · exact Or.inr (first two ▸ all)
  · rintro (named | all)
    · exact Or.inl (Or.inl named)
    · exact Or.inl (Or.inr all)

end Filter

namespace Expansion

variable {expansion : Expansion} {filter : Filter} {hops : Hops} {key target : String}

/-- At the outermost level a relation is left out if it leads to a model and is not
requested. -/
theorem omitsRelation_iff (named : hops.Named) :
    expansion.omitsRelation filter hops key target = true ↔
      hops = [] ∧ expansion.catalog.isModel target = true ∧ ¬ filter.Requested hops key := by
  unfold omitsRelation Filter.selects Filter.requestsRelation Filter.Requested
  by_cases root : hops = []
  · subst root
    have named : filter.includesPath key = true ↔ filter.NamesPath key := Filter.includesPath_iff
    by_cases selected : key ∈ filter.selected
    · simp [selected]
    · simp [selected, ← named]
  · simp [Hops.isRoot_eq_false named root, root]

/-- Within a relation a branch is left out if it leads to a model and is not requested. -/
theorem omitsBranch_concat_iff (plain : hops.Plain) (clean : key ≠ "" ∧ '.' ∉ key.toList) :
    expansion.omitsBranch filter (hops ++ [key]) target = true ↔
      hops ≠ [] ∧ expansion.catalog.isModel target = true ∧ ¬ filter.Requested hops key := by
  unfold omitsBranch
  rw [Bool.and_eq_true, Bool.and_eq_true, Hops.isNested_iff (plain.concat clean),
    Bool.not_eq_true', ← Bool.not_eq_true]
  by_cases root : hops = []
  · simp [root]
  · have two : 2 ≤ (hops ++ [key]).length := by
      have := List.length_pos_iff.mpr root
      simp only [List.length_append, List.length_singleton]
      omega
    rw [Filter.requestsBranch_iff root clean.2]
    simp only [two, true_and, root, ne_eq, not_false_eq_true]

end Expansion
end Routebook
