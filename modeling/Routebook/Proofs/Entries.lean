import Routebook.Keyed

namespace Routebook

/-!
# Laws of keyed entries

A key that is looked up among entries with distinct keys has the one value that is written
for it.  Three consequences serve the rest of the theory: a change of the values that may drop
entries commutes with looking up, a rule that every written entry obeys is obeyed by every
entry of the table, and the keys of a table are the written ones in the order of their first
appearance.  `Keyed.Overlays` joins the last one to the values: it says all that a table has to
do with the entries that were written into it.
-/

/-- The last of some values is new in the order of first appearance, or changes nothing. -/
theorem eraseDups_concat {α : Type} [DecidableEq α] (values : List α) (value : α) :
    (values ++ [value]).eraseDups =
      if value ∈ values then values.eraseDups else values.eraseDups ++ [value] := by
  rw [List.eraseDups_append, List.removeAll]
  by_cases known : value ∈ values
  · simp [known]
  · simp [known, List.eraseDups_cons]

section Entries

variable {α β : Type}

/-- Writing an entry adds no other entry. -/
theorem eq_or_mem_of_mem_insertEntry {key : String} {value : α} {entries : List (String × α)}
    {entry : String × α} (member : entry ∈ insertEntry key value entries) :
    entry = (key, value) ∨ entry ∈ entries := by
  induction entries with
  | nil => exact Or.inl (List.mem_singleton.mp member)
  | cons first rest inductionHypothesis =>
    rw [insertEntry] at member
    split at member
    · rcases List.mem_cons.mp member with written | kept
      · exact Or.inl written
      · exact Or.inr (List.mem_cons_of_mem first kept)
    · rcases List.mem_cons.mp member with kept | later
      · exact Or.inr (kept ▸ List.mem_cons_self)
      · exact (inductionHypothesis later).imp_right (List.mem_cons_of_mem first)

/-- Writing entries one after the other adds no other entry. -/
theorem mem_or_mem_of_mem_foldl_insertEntry {written entries : List (String × α)}
    {entry : String × α}
    (member : entry ∈ written.foldl (fun table entry => insertEntry entry.1 entry.2 table) entries) :
    entry ∈ entries ∨ entry ∈ written := by
  induction written generalizing entries with
  | nil => exact Or.inl member
  | cons first rest inductionHypothesis =>
    rcases inductionHypothesis member with early | late
    · rcases eq_or_mem_of_mem_insertEntry early with same | kept
      · exact Or.inr (same ▸ List.mem_cons_self)
      · exact Or.inl kept
    · exact Or.inr (List.mem_cons_of_mem first late)

/-- What a look-up finds is an entry. -/
theorem mem_of_entryAt?_eq_some {key : String} {value : α} {entries : List (String × α)}
    (found : entryAt? key entries = some value) : (key, value) ∈ entries := by
  rcases Option.map_eq_some_iff.mp found with ⟨entry, hit, same⟩
  have keyed : entry.1 = key := by simpa using List.find?_some hit
  have member := List.mem_of_find?_eq_some hit
  rwa [← keyed, ← same]

/-- Nothing is found at a key that is not written. -/
theorem entryAt?_eq_none_of_not_mem {key : String} {entries : List (String × α)}
    (absent : key ∉ entryKeys entries) : entryAt? key entries = none := by
  rw [entryAt?, Option.map_eq_none_iff, List.find?_eq_none]
  intro entry member same
  exact absent (List.mem_map.mpr ⟨entry, member, by simpa using same⟩)

/-- A key is found exactly if it is written. -/
theorem isSome_entryAt?_iff {key : String} {entries : List (String × α)} :
    (entryAt? key entries).isSome = true ↔ key ∈ entryKeys entries := by
  constructor
  · intro found
    rcases Option.isSome_iff_exists.mp found with ⟨value, hit⟩
    exact List.mem_map.mpr ⟨(key, value), mem_of_entryAt?_eq_some hit, rfl⟩
  · intro written
    rcases List.mem_map.mp written with ⟨entry, member, same⟩
    rw [entryAt?, Option.isSome_map, List.find?_isSome]
    exact ⟨entry, member, by simpa using same⟩

/-- Among entries with distinct keys every entry is found. -/
theorem entryAt?_eq_some_of_mem {key : String} {value : α} {entries : List (String × α)}
    (distinct : (entryKeys entries).Nodup) (written : (key, value) ∈ entries) :
    entryAt? key entries = some value := by
  induction entries with
  | nil => cases written
  | cons first rest inductionHypothesis =>
    have apart := List.nodup_cons.mp distinct
    rcases List.mem_cons.mp written with rfl | later
    · simp [entryAt?]
    · have other : first.1 ≠ key := by
        rintro rfl
        exact apart.1 (List.mem_map.mpr ⟨(first.1, value), later, rfl⟩)
      simpa [entryAt?, other] using inductionHypothesis apart.2 later

/-- A new key comes last. -/
theorem insertEntry_of_not_mem {key : String} {entries : List (String × α)}
    (new : key ∉ entryKeys entries) (value : α) :
    insertEntry key value entries = entries ++ [(key, value)] := by
  induction entries with
  | nil => rfl
  | cons first rest inductionHypothesis =>
    rw [entryKeys, List.map_cons, List.mem_cons, not_or] at new
    rw [insertEntry, if_neg (Ne.symm new.1), inductionHypothesis new.2, List.cons_append]

theorem entryAt?_append (key : String) (before after : List (String × α)) :
    entryAt? key (before ++ after) = (entryAt? key before).or (entryAt? key after) := by
  rw [entryAt?, List.find?_append, Option.map_or, entryAt?, entryAt?]

theorem entryAt?_map (change : α → β) (key : String) (entries : List (String × α)) :
    entryAt? key (entries.map fun entry => (entry.1, change entry.2)) =
      (entryAt? key entries).map change := by
  rw [entryAt?, entryAt?, List.find?_map, Option.map_map, Option.map_map]
  rfl

/-- A written entry is found at its key and changes no other. -/
theorem entryAt?_insertEntry (key other : String) (value : α) (entries : List (String × α)) :
    entryAt? other (insertEntry key value entries) =
      if other = key then some value else entryAt? other entries := by
  induction entries with
  | nil =>
    by_cases same : other = key
    · simp [insertEntry, entryAt?, same]
    · simp [insertEntry, entryAt?, same, Ne.symm same]
  | cons first rest inductionHypothesis =>
    rw [insertEntry]
    by_cases replaced : first.1 = key
    · subst replaced
      by_cases same : other = first.1
      · simp [entryAt?, same]
      · simp [entryAt?, same, Ne.symm same]
    · rw [if_neg replaced]
      by_cases found : first.1 = other
      · subst found
        simp [entryAt?, replaced]
      · simpa [entryAt?, found] using inductionHypothesis

/-- Entries with distinct keys that are written one after the other go before those that were
there. -/
theorem entryAt?_foldl_insertEntry {written : List (String × α)}
    (distinct : (entryKeys written).Nodup) (key : String) (entries : List (String × α)) :
    entryAt? key (written.foldl (fun table entry => insertEntry entry.1 entry.2 table) entries) =
      (entryAt? key written).or (entryAt? key entries) := by
  induction written generalizing entries with
  | nil => rfl
  | cons first rest inductionHypothesis =>
    have apart := List.nodup_cons.mp distinct
    rw [List.foldl_cons, inductionHypothesis apart.2, entryAt?_insertEntry]
    by_cases same : key = first.1
    · rw [same, entryAt?_eq_none_of_not_mem apart.1]
      simp [entryAt?]
    · simp [entryAt?, same, Ne.symm same]

/-- Entries whose keys are all new come one behind the other. -/
theorem foldl_insertEntry_of_nodup {entries written : List (String × α)}
    (distinct : (entryKeys (entries ++ written)).Nodup) :
    written.foldl (fun table entry => insertEntry entry.1 entry.2 table) entries =
      entries ++ written := by
  induction written generalizing entries with
  | nil => exact (List.append_nil _).symm
  | cons first rest inductionHypothesis =>
    have turned : entries ++ first :: rest = entries ++ [(first.1, first.2)] ++ rest := by simp
    have fresh : first.1 ∉ entryKeys entries := by
      intro known
      rw [entryKeys, List.map_append] at distinct
      exact (List.nodup_append.mp distinct).2.2 _ known _ (List.mem_cons_self) rfl
    rw [List.foldl_cons, insertEntry_of_not_mem fresh, turned]
    exact inductionHypothesis (turned ▸ distinct)

theorem length_insertEntry_of_mem {key : String} {entries : List (String × α)}
    (known : key ∈ entryKeys entries) (value : α) :
    (insertEntry key value entries).length = entries.length := by
  have keys := congrArg List.length (entryKeys_insertEntry key value entries)
  rw [if_pos known] at keys
  simpa [entryKeys] using keys

theorem length_foldl_insertEntry_le (written entries : List (String × α)) :
    (written.foldl (fun table entry => insertEntry entry.1 entry.2 table) entries).length ≤
      entries.length + written.length := by
  induction written generalizing entries with
  | nil => exact Nat.le_refl _
  | cons first rest inductionHypothesis =>
    have later := inductionHypothesis (insertEntry first.1 first.2 entries)
    rw [List.foldl_cons, List.length_cons]
    by_cases known : first.1 ∈ entryKeys entries
    · rw [length_insertEntry_of_mem known] at later
      omega
    · rw [insertEntry_of_not_mem known, List.length_append, List.length_singleton] at later
      rw [insertEntry_of_not_mem known]
      omega

/-- Entries that leave as many as were written are all new. -/
theorem nodup_of_length_foldl_insertEntry {written entries : List (String × α)}
    (distinct : (entryKeys entries).Nodup)
    (kept : (written.foldl (fun table entry => insertEntry entry.1 entry.2 table) entries).length =
      entries.length + written.length) :
    (entryKeys (entries ++ written)).Nodup := by
  induction written generalizing entries with
  | nil => rwa [List.append_nil]
  | cons first rest inductionHypothesis =>
    rw [List.foldl_cons, List.length_cons] at kept
    have fresh : first.1 ∉ entryKeys entries := by
      intro known
      have later := length_foldl_insertEntry_le rest (insertEntry first.1 first.2 entries)
      rw [length_insertEntry_of_mem known] at later
      omega
    have next := nodup_entryKeys_insertEntry first.1 first.2 distinct
    rw [insertEntry_of_not_mem fresh] at kept next
    have grown := inductionHypothesis next (by rw [kept]; simp; omega)
    simpa using grown

/-- The last value that is written for a key. -/
def lastAt? (key : String) (entries : List (String × α)) : Option α :=
  entryAt? key entries.reverse

theorem lastAt?_append (key : String) (before after : List (String × α)) :
    lastAt? key (before ++ after) = (lastAt? key after).or (lastAt? key before) := by
  unfold lastAt? entryAt?
  rw [List.reverse_append, List.find?_append]
  cases after.reverse.find? fun entry => entry.1 == key <;> rfl

theorem lastAt?_singleton (key other : String) (value : α) :
    lastAt? other [(key, value)] = if other = key then some value else none := by
  by_cases same : other = key
  · simp [lastAt?, entryAt?, same]
  · simp [lastAt?, entryAt?, same, Ne.symm same]

/-- Looking up among changed entries is changing what is looked up.  The keys must be
distinct: a dropped entry would uncover a later one with its key. -/
theorem entryAt?_filterMap (change : String → α → Option β) {entries : List (String × α)}
    (distinct : (entryKeys entries).Nodup) (key : String) :
    entryAt? key (entries.filterMap fun entry =>
        (change entry.1 entry.2).map fun value => (entry.1, value)) =
      (entryAt? key entries).bind (change key) := by
  induction entries with
  | nil => rfl
  | cons first rest inductionHypothesis =>
    have apart := List.nodup_cons.mp distinct
    have tail := inductionHypothesis apart.2
    by_cases same : first.1 = key
    · subst same
      have fresh : entryAt? first.1 rest = none := entryAt?_eq_none_of_not_mem apart.1
      rw [fresh] at tail
      cases changed : change first.1 first.2 with
      | none => simpa [entryAt?, changed] using tail
      | some value => simp [entryAt?, changed]
    · cases changed : change first.1 first.2 with
      | none => simpa [entryAt?, changed, same] using tail
      | some value => simpa [entryAt?, changed, same] using tail

end Entries

namespace Keyed

variable {α : Type}

/-! ## Keys -/

theorem get?_insert (table : Keyed α) (key other : String) (value : α) :
    (table.insert key value).get? other = if other = key then some value else table.get? other :=
  entryAt?_insertEntry key other value table.entries

theorem isSome_get?_iff {table : Keyed α} {key : String} :
    (table.get? key).isSome = true ↔ key ∈ table.keys :=
  isSome_entryAt?_iff

theorem keys_insert (table : Keyed α) (key : String) (value : α) :
    (table.insert key value).keys =
      if key ∈ table.keys then table.keys else table.keys ++ [key] :=
  entryKeys_insertEntry key value table.entries

theorem mem_keys_insert {table : Keyed α} {key other : String} {value : α} :
    other ∈ (table.insert key value).keys ↔ other = key ∨ other ∈ table.keys := by
  rw [keys_insert]
  by_cases known : key ∈ table.keys
  · rw [if_pos known]
    constructor
    · exact Or.inr
    · rintro (rfl | old)
      · exact known
      · exact old
  · rw [if_neg known, List.mem_append, List.mem_singleton, or_comm]

/-- The keys of a table are in the order in which they were first written, whatever is
written next. -/
theorem keys_insert_of_keys_eq {table : Keyed α} {written : List String}
    (ordered : table.keys = written.eraseDups) (key : String) (value : α) :
    (table.insert key value).keys = (written ++ [key]).eraseDups := by
  rw [keys_insert, ordered, eraseDups_concat]
  simp only [List.mem_eraseDups]

theorem mem_keys_insertAll {table : Keyed α} {entries : List (String × α)} {key : String} :
    key ∈ (table.insertAll entries).keys ↔ key ∈ table.keys ∨ key ∈ entryKeys entries := by
  unfold insertAll
  induction entries generalizing table with
  | nil => simp [entryKeys]
  | cons first rest inductionHypothesis =>
    have keys : entryKeys (first :: rest) = first.1 :: entryKeys rest := rfl
    rw [List.foldl_cons, inductionHypothesis, mem_keys_insert, keys, List.mem_cons, or_assoc,
      or_left_comm]

/-- New keys come behind those of the table, in their own order. -/
theorem keys_insertAll (table : Keyed α) {entries : List (String × α)}
    (distinct : (entryKeys entries).Nodup) :
    (table.insertAll entries).keys =
      table.keys ++ (entryKeys entries).filter (· ∉ table.keys) := by
  unfold insertAll
  induction entries generalizing table with
  | nil => exact (List.append_nil _).symm
  | cons first rest inductionHypothesis =>
    have apart := List.nodup_cons.mp distinct
    have keys : entryKeys (first :: rest) = first.1 :: entryKeys rest := rfl
    rw [List.foldl_cons, inductionHypothesis _ apart.2, keys, keys_insert]
    by_cases known : first.1 ∈ table.keys
    · rw [if_pos known, List.filter_cons_of_neg (by simpa using known)]
    · rw [if_neg known, List.filter_cons_of_pos (by simpa using known), List.append_assoc,
        List.singleton_append]
      congr 2
      apply List.filter_congr
      intro key member
      have other : key ≠ first.1 := by
        rintro rfl
        exact apart.1 member
      simp [other]

theorem entries_insertAll (table : Keyed α) (entries : List (String × α)) :
    (table.insertAll entries).entries =
      entries.foldl (fun table entry => insertEntry entry.1 entry.2 table) table.entries := by
  unfold insertAll
  induction entries generalizing table with
  | nil => rfl
  | cons first rest inductionHypothesis => exact inductionHypothesis (table.insert first.1 first.2)

/-- Written entries go before those of the table. -/
theorem get?_insertAll (table : Keyed α) {entries : List (String × α)}
    (distinct : (entryKeys entries).Nodup) (key : String) :
    (table.insertAll entries).get? key = (entryAt? key entries).or (table.get? key) := by
  rw [get?, entries_insertAll, entryAt?_foldl_insertEntry distinct]
  rfl

theorem mem_values_of_get? {table : Keyed α} {key : String} {value : α}
    (found : table.get? key = some value) : value ∈ table.values :=
  List.mem_map.mpr ⟨(key, value), mem_of_entryAt?_eq_some found, rfl⟩

/-! ## Overlays -/

/-- The table is what is left of entries that were written one over the other: every key has
the last value that was written for it, and stands where it was first written. -/
structure Overlays (table : Keyed α) (written : List (String × α)) : Prop where
  keys : table.keys = (entryKeys written).eraseDups
  value : ∀ key, table.get? key = lastAt? key written

theorem overlays_empty : (empty : Keyed α).Overlays [] where
  keys := rfl
  value _ := rfl

theorem Overlays.insert {table : Keyed α} {written : List (String × α)}
    (overlays : table.Overlays written) (key : String) (value : α) :
    (table.insert key value).Overlays (written ++ [(key, value)]) where
  keys := by
    rw [keys_insert_of_keys_eq overlays.keys, entryKeys, entryKeys, List.map_append]
    rfl
  value other := by
    rw [get?_insert, lastAt?_append, lastAt?_singleton, overlays.value]
    split <;> rfl

theorem Overlays.insertAll {table : Keyed α} {written : List (String × α)}
    (overlays : table.Overlays written) (entries : List (String × α)) :
    (table.insertAll entries).Overlays (written ++ entries) := by
  unfold Keyed.insertAll
  induction entries generalizing table written with
  | nil => rwa [List.append_nil]
  | cons first rest inductionHypothesis =>
    rw [List.foldl_cons, List.append_cons]
    exact inductionHypothesis (overlays.insert first.1 first.2)

theorem overlays_ofList (entries : List (String × α)) : (ofList entries).Overlays entries :=
  overlays_empty.insertAll entries

/-! ## Rules -/

/-- Every entry obeys the rule. -/
def All (rule : String → α → Prop) (table : Keyed α) : Prop :=
  ∀ entry ∈ table.entries, rule entry.1 entry.2

instance (rule : String → α → Prop) [∀ key value, Decidable (rule key value)]
    (table : Keyed α) : Decidable (table.All rule) :=
  inferInstanceAs (Decidable (∀ entry ∈ table.entries, rule entry.1 entry.2))

theorem all_empty (rule : String → α → Prop) : (empty : Keyed α).All rule := by
  intro entry member
  cases member

/-- Writing an entry that obeys the rule keeps the rule. -/
theorem All.insert {rule : String → α → Prop} {table : Keyed α} (kept : table.All rule)
    {key : String} {value : α} (obeys : rule key value) : (table.insert key value).All rule := by
  intro entry member
  rcases eq_or_mem_of_mem_insertEntry member with written | old
  · exact written ▸ obeys
  · exact kept entry old

theorem All.insertAll {rule : String → α → Prop} {table : Keyed α} (kept : table.All rule)
    {entries : List (String × α)} (obey : ∀ entry ∈ entries, rule entry.1 entry.2) :
    (table.insertAll entries).All rule := by
  unfold Keyed.insertAll
  induction entries generalizing table with
  | nil => exact kept
  | cons first rest inductionHypothesis =>
    rw [List.foldl_cons]
    apply inductionHypothesis (kept.insert (obey first List.mem_cons_self))
    exact fun entry member => obey entry (List.mem_cons_of_mem first member)

/-- What is looked up obeys the rule. -/
theorem All.of_get? {rule : String → α → Prop} {table : Keyed α} (kept : table.All rule)
    {key : String} {value : α} (found : table.get? key = some value) : rule key value :=
  kept (key, value) (mem_of_entryAt?_eq_some found)

/-- Every key of a list has a value, and it is one that the list has for it. -/
theorem exists_get?_ofList {entries : List (String × α)} {key : String}
    (written : key ∈ entryKeys entries) :
    ∃ value, (key, value) ∈ entries ∧ (ofList entries).get? key = some value := by
  have known : key ∈ (ofList entries).keys := mem_keys_insertAll.mpr (Or.inr written)
  rcases Option.isSome_iff_exists.mp (isSome_get?_iff.mpr known) with ⟨value, found⟩
  have listed : (ofList entries).All fun key value => (key, value) ∈ entries :=
    (all_empty _).insertAll fun entry member => member
  exact ⟨value, listed.of_get? found, found⟩

end Keyed
end Routebook
