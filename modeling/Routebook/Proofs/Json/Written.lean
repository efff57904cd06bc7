import Routebook.Proofs.Json.Numerals

namespace Routebook
namespace Json

/-!
# Values and their texts

The reader takes the compact text of a value apart into the parts that it was put together
from.  It comes to a tree, and the tree has a value unless arrays and objects are nested too
deeply or the text of a number is out of range.  `readBack?` is that value: the value that was
written but for its real numbers, and but for the keys that one object repeats.
-/

/-! ## Texts -/

theorem hexValue?_hexDigit {value : Nat} (small : value < 16) :
    hexValue? (hexDigit value) = some value := by
  have all : ∀ digit : Fin 16, hexValue? (hexDigit digit) = some digit.val := by decide
  exact all ⟨value, small⟩

/-- The escape of a control character stands for it. -/
theorem readUnit?_control {c : Char} (control : c.toNat < 0x20) (rest : List Char) :
    readUnit? ('0' :: '0' :: hexDigit (c.toNat / 16) :: hexDigit (c.toNat % 16) :: rest) =
      some (c, rest) := by
  have high := hexValue?_hexDigit (show c.toNat / 16 < 16 by omega)
  have low := hexValue?_hexDigit (show c.toNat % 16 < 16 by omega)
  have zero : hexValue? '0' = some 0 := rfl
  have unit : 0 * 4096 + 0 * 256 + c.toNat / 16 * 16 + c.toNat % 16 = c.toNat := by omega
  have quad : hexQuad?
      ('0' :: '0' :: hexDigit (c.toNat / 16) :: hexDigit (c.toNat % 16) :: rest) =
      some (c.toNat, rest) := by
    simp only [hexQuad?, zero, high, low, Option.bind_eq_bind, Option.bind_some, unit]
  have noTrail : ¬ (0xDC00 ≤ c.toNat ∧ c.toNat ≤ 0xDFFF) := by omega
  have noLead : ¬ (0xD800 ≤ c.toNat ∧ c.toNat ≤ 0xDBFF) := by omega
  simp [readUnit?, quad, noTrail, noLead, Char.ofNat_toNat]

/-- One character is read from what is written for it. -/
theorem readText_escape (budget : Nat) (c : Char) (rest : List Char) :
    readText (budget + 1) (escape c ++ rest) =
      (readText budget rest).bind fun (others, rest) => some (others.map (c :: ·), rest) := by
  unfold escape
  split
  all_goals first | rfl | skip
  next notQuote notSlash _ _ _ _ _ =>
    split
    next control =>
      simp only [List.cons_append, List.nil_append]
      rw [readText, readUnit?_control control rest]
      rfl
    next plain =>
      have unescaped : (decide (c.toNat < 0x20) || c == '\\') = false := by
        simpa [plain] using notSlash
      rw [List.cons_append, List.nil_append, readText]
      · rw [unescaped]
        rfl
      · exact notQuote
      · exact fun _ slash _ => notSlash slash
      · exact fun _ _ slash _ => notSlash slash

/-- Something is written for every character. -/
theorem escape_ne_nil (c : Char) : escape c ≠ [] := by
  unfold escape
  split
  all_goals first | exact List.cons_ne_nil _ _ | skip
  split <;> exact List.cons_ne_nil _ _

/-- A quoted text is read up to its closing quote. -/
theorem readText_flatMap_escape {value : List Char} {budget : Nat}
    (enough : (value.flatMap escape).length < budget) (rest : List Char) :
    readText budget (value.flatMap escape ++ '"' :: rest) = some (some value, rest) := by
  induction value generalizing budget with
  | nil =>
    obtain ⟨less, rfl⟩ := Nat.exists_eq_add_one.mpr enough
    rfl
  | cons c others inductionHypothesis =>
    have written : 0 < (escape c).length := List.length_pos_iff.mpr (escape_ne_nil c)
    rw [List.flatMap_cons, List.length_append] at enough
    obtain ⟨less, rfl⟩ := Nat.exists_eq_add_one.mpr (Nat.zero_lt_of_lt enough)
    have read := inductionHypothesis (show (others.flatMap escape).length < less by omega)
    rw [List.flatMap_cons, List.append_assoc, readText_escape, read]
    rfl

/-! ## Values -/

mutual

/-- How deep arrays and objects are nested. -/
def nesting : Json → Nat
  | list items => nestingItems items + 1
  | object fields => nestingFields fields + 1
  | _ => 0

/-- The deepest of the items. -/
def nestingItems : List Json → Nat
  | [] => 0
  | item :: rest => max (nesting item) (nestingItems rest)

/-- The deepest of the fields. -/
def nestingFields : List (String × Json) → Nat
  | [] => 0
  | (_, value) :: rest => max (nesting value) (nestingFields rest)

end

mutual

/-- The value that the text of a value is read as, however deep it is. -/
def readBack? : Json → Option Json
  | null => some null
  | bool value => some (bool value)
  | number value => (reread? value).map number
  | text value => some (text value)
  | list items => (readBackItems? items).map list
  | object fields => (readBackFields? [] fields).map object

/-- The items of a list, each read back. -/
def readBackItems? : List Json → Option (List Json)
  | [] => some []
  | item :: rest =>
    match readBack? item, readBackItems? rest with
    | some value, some values => some (value :: values)
    | _, _ => none

/-- The fields of an object, each read back and written over the fields before it. -/
def readBackFields? (before : List (String × Json)) :
    List (String × Json) → Option (List (String × Json))
  | [] => some before
  | (key, value) :: rest =>
    match readBack? value with
    | some value => readBackFields? (insertEntry key value before) rest
    | none => none

end

mutual

/-- The tree that the text of a value is read as where arrays and objects may be nested that
many levels deep. -/
def writtenTree (levels : Nat) : Json → Tree
  | null => .null
  | bool value => .bool value
  | number value => (reread? value).elim .unreadable .number
  | text value => .text value
  | list items => within levels (.list true (writtenTrees (levels - 1) items))
  | object fields => within levels (.fields true (writtenFields (levels - 1) fields))

/-- The trees of the items of a list. -/
def writtenTrees (levels : Nat) : List Json → List Tree
  | [] => []
  | item :: rest => writtenTree levels item :: writtenTrees levels rest

/-- The trees of the fields of an object. -/
def writtenFields (levels : Nat) : List (String × Json) → List (String × Tree)
  | [] => []
  | (key, value) :: rest => (key, writtenTree levels value) :: writtenFields levels rest

end

/-- What is nested within something else has one level less. -/
theorem value?_within {α : Type} {tree : Tree} {inner levels : Nat} {read? : Option α}
    {wrap : α → Json}
    (value : tree.value? = (if inner ≤ levels - 1 then read? else none).map wrap) :
    (within levels tree).value? = if inner + 1 ≤ levels then read?.map wrap else none := by
  unfold within
  cases levels with
  | zero => rfl
  | succ levels =>
    rw [if_neg (Nat.succ_ne_zero levels), value, Nat.add_sub_cancel]
    by_cases fits : inner ≤ levels
    · rw [if_pos fits, if_pos (Nat.succ_le_succ fits)]
    · rw [if_neg fits, if_neg (fun more => fits (Nat.le_of_succ_le_succ more))]
      rfl

mutual

/-- The tree of a text has a value unless the value that was written is nested too deeply. -/
theorem value?_writtenTree : ∀ (value : Json) (levels : Nat),
    (writtenTree levels value).value? =
      if value.nesting ≤ levels then value.readBack? else none
  | null, _ => rfl
  | bool _, _ => rfl
  | text _, _ => rfl
  | number value, _ => by
    rw [writtenTree, readBack?]
    cases reread? value <;> rfl
  | list items, levels => by
    rw [writtenTree, readBack?, nesting]
    apply value?_within
    rw [Tree.value?, if_pos rfl, values?_writtenTrees items]
  | object fields, levels => by
    rw [writtenTree, readBack?, nesting]
    apply value?_within
    rw [Tree.value?, if_pos rfl, fieldValues?_writtenFields fields]

theorem values?_writtenTrees : ∀ (items : List Json) (levels : Nat),
    Tree.values? (writtenTrees levels items) =
      if nestingItems items ≤ levels then readBackItems? items else none
  | [], _ => by rw [nestingItems, if_pos (Nat.zero_le _)]; rfl
  | item :: rest, levels => by
    rw [writtenTrees, Tree.values?, value?_writtenTree item, values?_writtenTrees rest,
      nestingItems, readBackItems?]
    simp only [Nat.max_le]
    by_cases first : item.nesting ≤ levels <;> by_cases others : nestingItems rest ≤ levels <;>
      cases readBack? item <;> cases readBackItems? rest <;> simp [first, others]

theorem fieldValues?_writtenFields : ∀ (fields : List (String × Json)) (levels : Nat)
    (before : List (String × Json)),
    Tree.fieldValues? before (writtenFields levels fields) =
      if nestingFields fields ≤ levels then readBackFields? before fields else none
  | [], _, _ => by rw [nestingFields, if_pos (Nat.zero_le _)]; rfl
  | (key, value) :: rest, levels, before => by
    rw [writtenFields, Tree.fieldValues?, value?_writtenTree value, nestingFields, readBackFields?]
    simp only [Nat.max_le]
    by_cases first : value.nesting ≤ levels
    · cases readBack? value with
      | none => simp
      | some read =>
        simp only [first, if_true, true_and]
        exact fieldValues?_writtenFields rest levels _
    · simp [first]

end

/-! ## Reading a text -/

theorem skipSpaces_cons {c : Char} (visible : isSpace c = false) (rest : List Char) :
    skipSpaces (c :: rest) = c :: rest :=
  List.dropWhile_cons_of_neg (by rw [visible]; exact Bool.false_ne_true)

/-- A character that begins a number begins nothing else. -/
theorem ne_of_begins {c : Char} (begins : Text.isDigit c = true ∨ c = '-') {other : Char}
    (apart : Text.isDigit other = false ∧ other ≠ '-') : c ≠ other := by
  rintro rfl
  rcases begins with digit | same
  · exact Bool.false_ne_true (apart.1.symm.trans digit)
  · exact apart.2 same

theorem isSpace_of_begins {c : Char} (begins : Text.isDigit c = true ∨ c = '-') :
    isSpace c = false := by
  have blank := @ne_of_begins c begins ' ' (by decide)
  have tab := @ne_of_begins c begins '\t' (by decide)
  have newline := @ne_of_begins c begins '\n' (by decide)
  have carriage := @ne_of_begins c begins '\r' (by decide)
  simp [isSpace, blank, tab, newline, carriage]

/-- The first character of a text is no blank and closes nothing. -/
theorem compact_begins (value : Json) :
    ∃ c others, value.compact = c :: others ∧ isSpace c = false ∧ c ≠ ']' := by
  cases value with
  | null => exact ⟨'n', _, rfl, by decide⟩
  | bool value => cases value <;> exact ⟨_, _, rfl, by decide⟩
  | text value => exact ⟨'"', _, rfl, by decide⟩
  | list items => exact ⟨'[', _, rfl, by decide⟩
  | object fields => exact ⟨'\x7b', _, rfl, by decide⟩
  | number value =>
    rcases numberText_begins value with ⟨c, others, same, begins⟩
    exact ⟨c, others, same, isSpace_of_begins begins, ne_of_begins begins (by decide)⟩

/-- What begins with a sign or a digit is read as a number. -/
theorem readValue_number {c : Char} (begins : Text.isDigit c = true ∨ c = '-')
    (budget levels : Nat) (text : List Char) :
    readValue (budget + 1) levels (c :: text) =
      (readNumeral (c :: text)).bind fun (numeral, rest) =>
        some (numeral.number.elim .unreadable .number, rest) := by
  rw [readValue, skipSpaces_cons (isSpace_of_begins begins)]
  split
  next other => exact absurd (List.cons.inj other).1 (ne_of_begins begins (by decide))
  next other => exact absurd (List.cons.inj other).1 (ne_of_begins begins (by decide))
  next other => exact absurd (List.cons.inj other).1 (ne_of_begins begins (by decide))
  next other => exact absurd (List.cons.inj other).1 (ne_of_begins begins (by decide))
  next other => exact absurd (List.cons.inj other).1 (ne_of_begins begins (by decide))
  next other => exact absurd (List.cons.inj other).1 (ne_of_begins begins (by decide))
  next => rfl

/-- A quoted text is read from behind its first quote. -/
theorem readText_quote {value : List Char} {budget : Nat} (enough : (quote value).length ≤ budget)
    (rest : List Char) :
    ∃ inner, quote value ++ rest = '"' :: inner ∧
      readText budget inner = some (some value, rest) := by
  refine ⟨value.flatMap escape ++ '"' :: rest, by simp [quote], ?_⟩
  apply readText_flatMap_escape
  simp only [quote, List.length_append, List.length_cons, List.length_nil] at enough
  omega

/-- An array whose first item stands behind the bracket is read item by item. -/
theorem readValue_array {inner : List Char}
    (begins : ∃ c others, inner = c :: others ∧ isSpace c = false ∧ c ≠ ']')
    (budget levels : Nat) :
    readValue (budget + 1) levels ('[' :: inner) =
      (readItems budget (levels - 1) inner).bind fun (items, rest) =>
        some (within levels (.list true items), rest) := by
  rcases begins with ⟨c, others, rfl, visible, goesOn⟩
  have opens : skipSpaces ('[' :: c :: others) = '[' :: c :: others := skipSpaces_cons rfl _
  rw [readValue, opens]
  simp only [skipSpaces_cons visible]
  split
  next closed => exact absurd (List.cons.inj closed).1 goesOn
  next => rfl

/-- An object whose first key stands behind the brace is read field by field. -/
theorem readValue_object (budget levels : Nat) (inner : List Char) :
    readValue (budget + 1) levels ('\x7b' :: '"' :: inner) =
      (readFields budget (levels - 1) ('"' :: inner)).bind fun (fields, rest) =>
        some (within levels (objectOf fields), rest) := rfl

/-- Fields whose keys are texts are an object. -/
theorem objectOf_texts (fields : List (String × Tree)) :
    objectOf (fields.map fun field => (some field.1.toList, field.2)) = .fields true fields := by
  have texts : (fields.map fun field => (some field.1.toList, field.2)).mapM
      (fun field => field.1.map fun key => (String.ofList key, field.2)) = some fields := by
    induction fields with
    | nil => rfl
    | cons field rest inductionHypothesis =>
      simp [inductionHypothesis]
  rw [objectOf, texts]

/-- The last item stands in front of the bracket. -/
theorem readItems_last {budget levels : Nat} {text rest : List Char} {item : Tree}
    (read : readValue budget levels text = some (item, ']' :: rest)) :
    readItems (budget + 1) levels text = some ([item], rest) := by
  rw [readItems, read]
  rfl

/-- An item in front of a comma is followed by others. -/
theorem readItems_more {budget levels : Nat} {text rest rest' : List Char} {item : Tree}
    {items : List Tree} (read : readValue budget levels text = some (item, ',' :: rest))
    (reads : readItems budget levels rest = some (items, rest')) :
    readItems (budget + 1) levels text = some (item :: items, rest') := by
  rw [readItems, read]
  show (readItems budget levels rest).bind _ = _
  rw [reads]
  rfl

/-- A field is a quoted key, a colon and a value; the last one stands in front of the brace. -/
theorem readFields_last {budget levels : Nat} {key text rest : List Char} {value : Tree}
    (enough : (quote key).length ≤ budget)
    (read : readValue budget levels text = some (value, '\x7d' :: rest)) :
    readFields (budget + 1) levels (quote key ++ ':' :: text) =
      some ([(some key, value)], rest) := by
  rcases readText_quote enough (':' :: text) with ⟨inner, same, readKey⟩
  have opens : skipSpaces ('"' :: inner) = '"' :: inner := skipSpaces_cons rfl _
  have colon : skipSpaces (':' :: text) = ':' :: text := skipSpaces_cons rfl _
  have closes : skipSpaces ('\x7d' :: rest) = '\x7d' :: rest := skipSpaces_cons rfl _
  rw [same, readFields, opens]
  simp only [readKey, Option.bind_eq_bind, Option.bind_some, colon, read, closes]

/-- A field in front of a comma is followed by others. -/
theorem readFields_more {budget levels : Nat} {key text rest rest' : List Char} {value : Tree}
    {fields : List (Option (List Char) × Tree)} (enough : (quote key).length ≤ budget)
    (read : readValue budget levels text = some (value, ',' :: rest))
    (reads : readFields budget levels rest = some (fields, rest')) :
    readFields (budget + 1) levels (quote key ++ ':' :: text) =
      some ((some key, value) :: fields, rest') := by
  rcases readText_quote enough (':' :: text) with ⟨inner, same, readKey⟩
  have opens : skipSpaces ('"' :: inner) = '"' :: inner := skipSpaces_cons rfl _
  have colon : skipSpaces (':' :: text) = ':' :: text := skipSpaces_cons rfl _
  have comma : skipSpaces (',' :: rest) = ',' :: rest := skipSpaces_cons rfl _
  rw [same, readFields, opens]
  simp only [readKey, Option.bind_eq_bind, Option.bind_some, colon, read, comma, reads]

theorem compactItems_begins (item : Json) (items : List Json) (rest : List Char) :
    ∃ c others, compactItems (item :: items) ++ rest = c :: others ∧ isSpace c = false ∧
      c ≠ ']' := by
  rcases compact_begins item with ⟨c, others, begins, visible, goesOn⟩
  cases items with
  | nil => exact ⟨c, _, by rw [compactItems, begins]; rfl, visible, goesOn⟩
  | cons next items => exact ⟨c, _, by rw [compactItems, begins]; rfl, visible, goesOn⟩

theorem compactFields_begins (field : String × Json) (fields : List (String × Json))
    (rest : List Char) : ∃ others, compactFields (field :: fields) ++ rest = '"' :: others := by
  obtain ⟨key, value⟩ := field
  cases fields with
  | nil => exact ⟨_, rfl⟩
  | cons next fields => exact ⟨_, rfl⟩

/-- A budget that is enough for something can be lowered. -/
theorem exists_succ_of_lt {amount budget : Nat} (enough : amount < budget) :
    ∃ less, budget = less + 1 :=
  Nat.exists_eq_add_one.mpr (Nat.zero_lt_of_lt enough)

-- The induction is on the value that was written.  Of two calls one within the other the outer
-- one has taken a character, so a budget above twice the length of the text is enough, and one
-- more for items and fields, which take their first character only within the call for a value.
mutual

/-- The text of a value is read as its tree, as far as it goes. -/
theorem readValue_compact : ∀ (value : Json) {budget : Nat} (levels : Nat) {rest : List Char},
    2 * value.compact.length < budget → Closes rest →
    readValue budget levels (value.compact ++ rest) = some (writtenTree levels value, rest)
  | null, budget, levels, rest, enough, _ => by
    obtain ⟨budget, rfl⟩ := exists_succ_of_lt enough
    rfl
  | bool value, budget, levels, rest, enough, _ => by
    obtain ⟨budget, rfl⟩ := exists_succ_of_lt enough
    cases value <;> rfl
  | number value, budget, levels, rest, enough, closes => by
    obtain ⟨budget, rfl⟩ := exists_succ_of_lt enough
    rcases numberText_begins value with ⟨c, others, same, begins⟩
    rcases readNumeral_numberText value closes with ⟨numeral, read, back⟩
    rw [compact, writtenTree, ← back]
    rw [same, List.cons_append] at read ⊢
    rw [readValue_number begins, read]
    rfl
  | text value, budget, levels, rest, enough, _ => by
    obtain ⟨budget, rfl⟩ := exists_succ_of_lt enough
    rw [compact] at enough ⊢
    have fits : (quote value.toList).length ≤ budget := by omega
    rcases readText_quote fits rest with ⟨inner, same, read⟩
    have opens : skipSpaces ('"' :: inner) = '"' :: inner := skipSpaces_cons rfl _
    rw [same, readValue, opens]
    simp only [read, Option.bind_eq_bind, Option.bind_some, Option.elim_some, String.ofList_toList,
      writtenTree]
  | list [], budget, levels, rest, enough, _ => by
    obtain ⟨budget, rfl⟩ := exists_succ_of_lt enough
    rfl
  | list (item :: items), budget, levels, rest, enough, _ => by
    obtain ⟨budget, rfl⟩ := exists_succ_of_lt enough
    rw [compact, List.length_append, List.length_cons, List.length_singleton] at enough
    have reads := readItems_compact (item :: items) (levels - 1) rest (List.cons_ne_nil _ _)
      (show 2 * (compactItems (item :: items)).length + 1 < budget by omega)
    have begins := compactItems_begins item items (']' :: rest)
    have shape : (list (item :: items)).compact ++ rest =
        '[' :: (compactItems (item :: items) ++ ']' :: rest) := by simp [compact]
    rw [shape, readValue_array begins, reads]
    rfl
  | object [], budget, levels, rest, enough, _ => by
    obtain ⟨budget, rfl⟩ := exists_succ_of_lt enough
    rfl
  | object (field :: fields), budget, levels, rest, enough, closes => by
    obtain ⟨budget, rfl⟩ := exists_succ_of_lt enough
    rw [compact, List.length_append, List.length_cons, List.length_singleton] at enough
    have reads := readFields_compact (field :: fields) (levels - 1) rest (List.cons_ne_nil _ _)
      (show 2 * (compactFields (field :: fields)).length + 1 < budget by omega)
    rcases compactFields_begins field fields ('\x7d' :: rest) with ⟨inner, begins⟩
    have shape : (object (field :: fields)).compact ++ rest = '\x7b' :: '"' :: inner := by
      rw [← begins]
      simp [compact]
    rw [begins] at reads
    rw [shape, readValue_object, reads]
    simp only [Option.bind_some, objectOf_texts, writtenTree]

/-- The items of an array are read up to its closing bracket. -/
theorem readItems_compact : ∀ (items : List Json) {budget : Nat} (levels : Nat)
    (rest : List Char), items ≠ [] → 2 * (compactItems items).length + 1 < budget →
    readItems budget levels (compactItems items ++ ']' :: rest) =
      some (writtenTrees levels items, rest)
  | [], _, _, _, nonempty, _ => absurd rfl nonempty
  | [item], budget, levels, rest, _, enough => by
    obtain ⟨budget, rfl⟩ := exists_succ_of_lt enough
    rw [compactItems] at enough ⊢
    have closes : Closes (']' :: rest) := closes_cons (by decide) rest
    exact readItems_last (readValue_compact item levels (by omega) closes)
  | item :: next :: others, budget, levels, rest, _, enough => by
    obtain ⟨budget, rfl⟩ := exists_succ_of_lt enough
    rw [compactItems, List.length_append, List.length_cons] at enough
    have closes : Closes (',' :: (compactItems (next :: others) ++ ']' :: rest)) :=
      closes_cons (by decide) _
    have read := readValue_compact item levels (show 2 * item.compact.length < budget by omega)
      closes
    have reads := readItems_compact (next :: others) levels rest (List.cons_ne_nil _ _)
      (show 2 * (compactItems (next :: others)).length + 1 < budget by omega)
    rw [compactItems, List.append_assoc, List.cons_append]
    exact readItems_more read reads

/-- The fields of an object are read up to its closing brace. -/
theorem readFields_compact : ∀ (fields : List (String × Json)) {budget : Nat} (levels : Nat)
    (rest : List Char), fields ≠ [] → 2 * (compactFields fields).length + 1 < budget →
    readFields budget levels (compactFields fields ++ '\x7d' :: rest) =
      some ((writtenFields levels fields).map fun field => (some field.1.toList, field.2), rest)
  | [], _, _, _, nonempty, _ => absurd rfl nonempty
  | [(key, value)], budget, levels, rest, _, enough => by
    obtain ⟨budget, rfl⟩ := exists_succ_of_lt enough
    rw [compactFields, List.length_append, List.length_cons] at enough
    have closes : Closes ('\x7d' :: rest) := closes_cons (by decide) rest
    have read := readValue_compact value levels (show 2 * value.compact.length < budget by omega)
      closes
    rw [compactFields, List.append_assoc, List.cons_append]
    exact readFields_last (by omega) read
  | (key, value) :: next :: others, budget, levels, rest, _, enough => by
    obtain ⟨budget, rfl⟩ := exists_succ_of_lt enough
    rw [compactFields, List.length_append, List.length_append, List.length_cons,
      List.length_cons] at enough
    have closes : Closes (',' :: (compactFields (next :: others) ++ '\x7d' :: rest)) :=
      closes_cons (by decide) _
    have read := readValue_compact value levels (show 2 * value.compact.length < budget by omega)
      closes
    have reads := readFields_compact (next :: others) levels rest (List.cons_ne_nil _ _)
      (show 2 * (compactFields (next :: others)).length + 1 < budget by omega)
    have shape : compactFields ((key, value) :: next :: others) ++ '\x7d' :: rest =
        quote key.toList ++ ':' :: (value.compact ++ ',' ::
          (compactFields (next :: others) ++ '\x7d' :: rest)) := by
      simp [compactFields]
    rw [shape]
    exact readFields_more (by omega) read reads

end

/-- The text of a value is read as the value that comes back from it, unless arrays and objects
are nested too deeply. -/
theorem read?_compact (value : Json) :
    read? value.compact = if value.nesting ≤ maxNesting then value.readBack? else none := by
  have read := readValue_compact value maxNesting
    (show 2 * value.compact.length < 2 * value.compact.length + 2 by omega) closes_nil
  rw [List.append_nil] at read
  rw [read?, readTree?, read, ← value?_writtenTree]
  rfl

end Json
end Routebook
