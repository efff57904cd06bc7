import Routebook.Proofs.Entries
import Routebook.Proofs.Json.Written

namespace Routebook
namespace Json

/-!
# Values whose texts lose their blanks

The value of a token loses its blanks before anybody reads it, those within the strings of a
JSON text included.  What is left is the text of another value: the same value without the
blanks in its texts and keys.  `Survives` says of which values nothing is lost, neither by
dropping the blanks nor by reading the text that is left.
-/

/-! ## Blanks -/

/-- A blank that is written as it is.  The blanks among the control characters are written as
escapes. -/
def isRawBlank (c : Char) : Bool :=
  Text.isBlank c && 0x20 ≤ c.toNat

/-- A text without the blanks that are written as they are. -/
def condenseText (value : String) : String :=
  String.ofList (value.toList.filter (!isRawBlank ·))

mutual

/-- A value without raw blanks in its texts and keys. -/
def condense : Json → Json
  | null => null
  | bool value => bool value
  | number value => number value
  | text value => text (condenseText value)
  | list items => list (condenseItems items)
  | object fields => object (condenseFields fields)

/-- The items of a list, each without raw blanks. -/
def condenseItems : List Json → List Json
  | [] => []
  | item :: rest => condense item :: condenseItems rest

/-- The fields of an object, each without raw blanks. -/
def condenseFields : List (String × Json) → List (String × Json)
  | [] => []
  | (key, value) :: rest => (condenseText key, condense value) :: condenseFields rest

end

theorem isBlank_hexDigit {value : Nat} (small : value < 16) :
    Text.isBlank (hexDigit value) = false := by
  have all : ∀ digit : Fin 16, Text.isBlank (hexDigit digit) = false := by decide
  exact all ⟨value, small⟩

/-- What is written for a character loses its blanks as the character does. -/
theorem filter_escape (c : Char) :
    (escape c).filter (!Text.isBlank ·) = if isRawBlank c then [] else escape c := by
  unfold escape
  split
  all_goals first | rfl | skip
  split
  next control =>
    have high := isBlank_hexDigit (show c.toNat / 16 < 16 by omega)
    have low := isBlank_hexDigit (show c.toNat % 16 < 16 by omega)
    have slash : Text.isBlank '\\' = false := rfl
    have letter : Text.isBlank 'u' = false := rfl
    have zero : Text.isBlank '0' = false := rfl
    have escaped : isRawBlank c = false := by simp [isRawBlank, control]
    simp [high, low, escaped, slash, letter, zero]
  next plain =>
    have raw : isRawBlank c = Text.isBlank c := by simp [isRawBlank, Nat.not_lt.mp plain]
    rw [raw]
    cases blank : Text.isBlank c <;> simp [blank]

/-- A quoted text loses its raw blanks. -/
theorem filter_quote (value : String) :
    (quote value.toList).filter (!Text.isBlank ·) = quote (condenseText value).toList := by
  have inner : ∀ characters : List Char, (characters.flatMap escape).filter (!Text.isBlank ·) =
      (characters.filter (!isRawBlank ·)).flatMap escape := by
    intro characters
    induction characters with
    | nil => rfl
    | cons c rest inductionHypothesis =>
      rw [List.flatMap_cons, List.filter_append, filter_escape, inductionHypothesis]
      cases raw : isRawBlank c <;> simp [raw]
  have mark : Text.isBlank '"' = false := rfl
  simp [quote, condenseText, inner, mark]

theorem isBlank_of_isDigit {c : Char} (digit : Text.isDigit c = true) :
    Text.isBlank c = false := by
  simp only [Text.isDigit, Bool.and_eq_true, decide_eq_true_eq] at digit
  have ascii : c.toNat < 0x80 := by omega
  simp only [Text.isBlank, if_pos ascii, Bool.or_eq_false_iff, Bool.and_eq_false_iff,
    beq_eq_false_iff_ne, decide_eq_false_iff_not]
  omega

/-- The text of a number holds no blanks. -/
theorem filter_numberText (number : Number) :
    (numberText number).filter (!Text.isBlank ·) = numberText number := by
  apply List.filter_eq_self.mpr
  intro c member
  rcases mem_numberText member with digit | mark
  · simp [isBlank_of_isDigit digit]
  · simp only [List.mem_cons, List.not_mem_nil, or_false] at mark
    rcases mark with rfl | rfl | rfl | rfl <;> rfl

mutual

/-- A text that loses its blanks is the text of the value without its raw blanks. -/
theorem filter_compact : ∀ value : Json,
    value.compact.filter (!Text.isBlank ·) = value.condense.compact
  | null => rfl
  | bool true => rfl
  | bool false => rfl
  | number value => filter_numberText value
  | text value => filter_quote value
  | list items => by
    have opens : Text.isBlank '[' = false := rfl
    have closes : Text.isBlank ']' = false := rfl
    simp [compact, condense, opens, closes, filter_compactItems items]
  | object fields => by
    have opens : Text.isBlank '\x7b' = false := rfl
    have closes : Text.isBlank '\x7d' = false := rfl
    simp [compact, condense, opens, closes, filter_compactFields fields]

theorem filter_compactItems : ∀ items : List Json,
    (compactItems items).filter (!Text.isBlank ·) = compactItems (condenseItems items)
  | [] => rfl
  | [item] => filter_compact item
  | item :: next :: others => by
    have comma : Text.isBlank ',' = false := rfl
    have rest := filter_compactItems (next :: others)
    rw [condenseItems] at rest
    simp [compactItems, condenseItems, comma, filter_compact item, rest]

theorem filter_compactFields : ∀ fields : List (String × Json),
    (compactFields fields).filter (!Text.isBlank ·) = compactFields (condenseFields fields)
  | [] => rfl
  | [(key, value)] => by
    have colon : Text.isBlank ':' = false := rfl
    simp [compactFields, condenseFields, colon, filter_quote, filter_compact value]
  | (key, value) :: next :: others => by
    have colon : Text.isBlank ':' = false := rfl
    have comma : Text.isBlank ',' = false := rfl
    have rest := filter_compactFields (next :: others)
    rw [condenseFields] at rest
    simp [compactFields, condenseFields, colon, comma, filter_quote, filter_compact value, rest]

end

mutual

/-- Blanks do not count for how deep a value is nested. -/
theorem nesting_condense : ∀ value : Json, value.condense.nesting = value.nesting
  | null => rfl
  | bool _ => rfl
  | number _ => rfl
  | text _ => rfl
  | list items => congrArg (· + 1) (nestingItems_condense items)
  | object fields => congrArg (· + 1) (nestingFields_condense fields)

theorem nestingItems_condense : ∀ items : List Json,
    nestingItems (condenseItems items) = nestingItems items
  | [] => rfl
  | item :: rest => by
    rw [condenseItems, nestingItems, nestingItems, nesting_condense item,
      nestingItems_condense rest]

theorem nestingFields_condense : ∀ fields : List (String × Json),
    nestingFields (condenseFields fields) = nestingFields fields
  | [] => rfl
  | (key, value) :: rest => by
    rw [condenseFields, nestingFields, nestingFields, nesting_condense value,
      nestingFields_condense rest]

end

/-! ## What survives -/

/-- A text without raw blanks. -/
def IsSolid (value : String) : Prop :=
  ∀ c ∈ value.toList, isRawBlank c = false

theorem condenseText_eq_iff {value : String} : condenseText value = value ↔ IsSolid value := by
  rw [condenseText, IsSolid, ← String.toList_inj, String.toList_ofList, List.filter_eq_self]
  simp

/-- Nothing of the value is lost when its text loses its blanks and is read: its texts and keys
hold no raw blanks, its real numbers are read exactly, and no object repeats a key. -/
inductive Survives : Json → Prop where
  | null : Survives null
  | bool (value : Bool) : Survives (bool value)
  | integer (value : Int)
      (inRange : -0x8000000000000000 ≤ value ∧ value < 0x10000000000000000) :
      Survives (number (.integer value inRange))
  | real {value : Binary64} (exact : reread? (.real value) = some (.real value)) :
      Survives (number (.real value))
  | text {value : String} (solid : IsSolid value) : Survives (text value)
  | list {items : List Json} (inner : ∀ item ∈ items, Survives item) : Survives (list items)
  | object {fields : List (String × Json)} (distinct : (entryKeys fields).Nodup)
      (keys : ∀ field ∈ fields, IsSolid field.1) (values : ∀ field ∈ fields, Survives field.2) :
      Survives (object fields)

/-- The fields that are read back before they are written one over the other. -/
def readEntries? : List (String × Json) → Option (List (String × Json))
  | [] => some []
  | (key, value) :: rest =>
    match readBack? value, readEntries? rest with
    | some value, some entries => some ((key, value) :: entries)
    | _, _ => none

theorem readBackFields?_eq (before fields : List (String × Json)) :
    readBackFields? before fields = (readEntries? fields).map fun entries =>
      entries.foldl (fun table entry => insertEntry entry.1 entry.2 table) before := by
  induction fields generalizing before with
  | nil => rfl
  | cons field rest inductionHypothesis =>
    obtain ⟨key, value⟩ := field
    rw [readBackFields?, readEntries?]
    cases readBack? value with
    | none => rfl
    | some read =>
      have others := inductionHypothesis (insertEntry key read before)
      cases given : readEntries? rest <;> simpa [given] using others

theorem length_readEntries? {fields entries : List (String × Json)}
    (read : readEntries? fields = some entries) : entries.length = fields.length := by
  induction fields generalizing entries with
  | nil =>
    cases read
    rfl
  | cons field rest inductionHypothesis =>
    obtain ⟨key, value⟩ := field
    rw [readEntries?] at read
    split at read
    next others _ readRest =>
      rw [← Option.some.inj read, List.length_cons, List.length_cons, inductionHypothesis readRest]
    next => cases read

theorem length_condenseFields (fields : List (String × Json)) :
    (condenseFields fields).length = fields.length := by
  induction fields with
  | nil => rfl
  | cons field rest inductionHypothesis =>
    rw [condenseFields, List.length_cons, List.length_cons, inductionHypothesis]

/-- An object comes back whole if every field does and no key is repeated. -/
theorem readBack?_condense_object (fields : List (String × Json)) :
    (object fields).condense.readBack? = some (object fields) ↔
      (entryKeys fields).Nodup ∧ readEntries? (condenseFields fields) = some fields := by
  rw [condense, readBack?, readBackFields?_eq, Option.map_map, Option.map_eq_some_iff]
  constructor
  · rintro ⟨entries, read, same⟩
    -- As many fields come back as were written, so none was written over another.
    have written :
        entries.foldl (fun table entry => insertEntry entry.1 entry.2 table) [] = fields :=
      Json.object.inj same
    have length : entries.length = fields.length := by
      rw [length_readEntries? read, length_condenseFields]
    have kept : (entries.foldl (fun table entry => insertEntry entry.1 entry.2 table) []).length =
        ([] : List (String × Json)).length + entries.length := by
      rw [written, length]
      exact (Nat.zero_add _).symm
    have distinct : (entryKeys ([] ++ entries)).Nodup :=
      nodup_of_length_foldl_insertEntry List.nodup_nil kept
    have whole : entries = fields := (foldl_insertEntry_of_nodup distinct).symm.trans written
    exact ⟨whole ▸ distinct, whole ▸ read⟩
  · rintro ⟨distinct, read⟩
    refine ⟨fields, read, ?_⟩
    have apart : (entryKeys ([] ++ fields)).Nodup := distinct
    exact congrArg object (foldl_insertEntry_of_nodup apart)

mutual

/-- A value comes back from its text without blanks exactly if it survives. -/
theorem readBack?_condense_iff : ∀ value : Json,
    value.condense.readBack? = some value ↔ value.Survives
  | null => ⟨fun _ => .null, fun _ => rfl⟩
  | bool value => ⟨fun _ => .bool value, fun _ => rfl⟩
  | number (.integer value inRange) => by
    rw [condense, readBack?, reread?_integer]
    exact ⟨fun _ => .integer value inRange, fun _ => rfl⟩
  | number (.real value) => by
    rw [condense, readBack?]
    constructor
    · intro same
      rcases Option.map_eq_some_iff.mp same with ⟨other, read, whole⟩
      exact .real (Json.number.inj whole ▸ read)
    · intro survives
      cases survives with
      | real exact => rw [exact, Option.map_some]
  | text value => by
    rw [condense, readBack?, Option.some.injEq, Json.text.injEq, condenseText_eq_iff]
    exact ⟨.text, fun survives => by cases survives; assumption⟩
  | list items => by
    have inner := readBackItems?_condense_iff items
    rw [condense, readBack?]
    constructor
    · intro same
      rcases Option.map_eq_some_iff.mp same with ⟨others, read, whole⟩
      rw [Json.list.inj whole] at read
      exact .list (inner.mp read)
    · intro survives
      cases survives with
      | list kept => rw [inner.mpr kept, Option.map_some]
  | object fields => by
    have inner := readEntries?_condense_iff fields
    rw [readBack?_condense_object]
    constructor
    · rintro ⟨distinct, read⟩
      have kept := inner.mp read
      exact .object distinct (fun field member => (kept field member).1) fun field member =>
        (kept field member).2
    · intro survives
      cases survives with
      | object distinct keys values =>
        exact ⟨distinct, inner.mpr fun field member => ⟨keys field member, values field member⟩⟩

theorem readBackItems?_condense_iff : ∀ items : List Json,
    readBackItems? (condenseItems items) = some items ↔ ∀ item ∈ items, Survives item
  | [] => by simp [condenseItems, readBackItems?]
  | item :: rest => by
    have first := readBack?_condense_iff item
    have others := readBackItems?_condense_iff rest
    rw [condenseItems, readBackItems?, List.forall_mem_cons, ← first, ← others]
    cases readBack? (condense item) <;> cases readBackItems? (condenseItems rest) <;> simp

theorem readEntries?_condense_iff : ∀ fields : List (String × Json),
    readEntries? (condenseFields fields) = some fields ↔
      ∀ field ∈ fields, IsSolid field.1 ∧ Survives field.2
  | [] => by simp [condenseFields, readEntries?]
  | (key, value) :: rest => by
    have first := readBack?_condense_iff value
    have others := readEntries?_condense_iff rest
    rw [condenseFields, readEntries?, List.forall_mem_cons, ← first, ← others,
      ← condenseText_eq_iff]
    cases readBack? (condense value) <;> cases readEntries? (condenseFields rest) <;>
      simp [and_assoc]

end

instance (value : Json) : Decidable value.Survives :=
  decidable_of_iff _ (readBack?_condense_iff value)

end Json
end Routebook
