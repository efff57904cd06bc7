import Routebook.Proofs.Expansion.Components
import Routebook.Proofs.Json.Condensed
import Routebook.Proofs.Token

namespace Routebook

/-!
# Appended values

A filter may put values over an example.  They are written as the fields of a JSON object in the
parentheses of an `append` token, and a token that is no text for people loses its blanks.  So
the values come back as `Keyed.recovered` says: without the blanks in their texts and keys, and
with the real numbers that the reader makes of theirs.  They come back unchanged exactly if
nothing is lost on the way.  Whatever has come back is what the example shows.
-/

namespace Keyed

/-- The values that come back when the fields of a table are written, lose their blanks and are
read; none if they are nested too deeply or a number is out of range. -/
def recovered (values : Keyed Json) : Keyed Json :=
  let whole := Json.object values.entries
  match if whole.nesting ≤ Json.maxNesting then whole.condense.readBack? else none with
  | some (.object fields) => .ofList fields
  | _ => .empty

theorem entries_ofList_of_nodup {α : Type} {entries : List (String × α)}
    (distinct : (entryKeys entries).Nodup) : (ofList entries).entries = entries := by
  have apart : (entryKeys ([] ++ entries)).Nodup := distinct
  rw [ofList, entries_insertAll]
  exact foldl_insertEntry_of_nodup apart

theorem ofList_entries {α : Type} (table : Keyed α) : ofList table.entries = table := by
  have same := entries_ofList_of_nodup table.distinct
  generalize ofList table.entries = other at same
  cases other
  cases same
  rfl

/-- Fields are read back as fields with distinct keys. -/
theorem nodup_of_readBack? {written fields : List (String × Json)}
    (read : (Json.object written).readBack? = some (.object fields)) :
    (entryKeys fields).Nodup := by
  rw [Json.readBack?, Json.readBackFields?_eq] at read
  rcases Option.map_eq_some_iff.mp read with ⟨others, readFields, same⟩
  rcases Option.map_eq_some_iff.mp readFields with ⟨entries, _, whole⟩
  have written := (ofList entries).distinct
  rw [ofList, entries_insertAll] at written
  rw [← Json.object.inj same, ← whole]
  exact written

/-- Values come back unchanged exactly if they survive and are not nested too deeply. -/
theorem recovered_eq_iff (values : Keyed Json) :
    values.recovered = values ↔ (Json.object values.entries).nesting ≤ Json.maxNesting ∧
      (Json.object values.entries).Survives := by
  constructor
  · intro same
    by_cases shallow : (Json.object values.entries).nesting ≤ Json.maxNesting
    · refine ⟨shallow, (Json.readBack?_condense_iff _).mp ?_⟩
      simp only [recovered, if_pos shallow] at same
      split at same
      next fields read =>
        have distinct : (entryKeys fields).Nodup := nodup_of_readBack? read
        rw [read, ← same, entries_ofList_of_nodup distinct]
      next =>
        -- Nothing has come back, and of a table without values nothing is lost.
        rw [← same]
        rfl
    · simp only [recovered, if_neg shallow] at same
      rw [← same] at shallow
      exact absurd (by decide) shallow
  · rintro ⟨shallow, survives⟩
    simp only [recovered, if_pos shallow, (Json.readBack?_condense_iff _).mpr survives]
    exact ofList_entries values

end Keyed

namespace Filter

/-- The fields of a table that have lost their blanks are read as what comes back of it. -/
theorem appendedOf_filter (values : Keyed Json) :
    appendedOf ((Json.compactFields values.entries).filter (!Text.isBlank ·)) =
      values.recovered := by
  obtain ⟨entries, distinct⟩ := values
  cases entries with
  | nil => rfl
  | cons first rest =>
    have condensed := Json.nesting_condense (.object (first :: rest))
    have read := Json.read?_compact (Json.object (first :: rest)).condense
    rcases Json.compactFields_begins first rest [] with ⟨others, begins⟩
    rw [List.append_nil] at begins
    have nonempty :
        ((Json.compactFields (first :: rest)).filter (!Text.isBlank ·)).isEmpty = false := by
      rw [begins]
      rfl
    rw [condensed, Json.condense, Json.compact, ← Json.filter_compactFields] at read
    rw [appendedOf, nonempty, if_neg Bool.false_ne_true, read]
    rfl

/-- A reference with values behind it. -/
def appending (reference : List Char) (values : Keyed Json) : List Char :=
  '<' :: reference ++ ">.append(".toList ++ (Json.compactFields values.entries ++ [')'])

/-- The token behind a reference is found, whatever it holds. -/
theorem cut?_append {reference : List Char} (named : ¬ Token.opening "append" <:+: reference)
    (written : List Char) :
    Text.cut? (Token.opening "append") ('<' :: reference ++ ">.append(".toList ++ written) =
      some ('<' :: reference ++ ['>'] ++ ['.'], written) := by
  have shape : '<' :: reference ++ ">.append(".toList ++ written =
      ('<' :: reference ++ ['>'] ++ ['.']) ++ (Token.opening "append" ++ written) := by
    have mark : ">.append(".toList = ['>', '.'] ++ Token.opening "append" := rfl
    simp [mark]
  have opens : '<' ∉ Token.opening "append" := by decide
  have closes : '>' ∉ Token.opening "append" := by decide
  have point : '.' ∉ Token.opening "append" := by decide
  have nothing : ¬ Token.opening "append" <:+: [] := by decide
  have behind : ¬ Token.opening "append" <:+: "append".toList := by
    intro held
    have unopened : '(' ∉ "append".toList := by decide
    exact unopened (held.subset (by decide))
  have name : (Token.opening "append").dropLast = "append".toList := by decide
  have apart : '<' :: reference ++ ['>'] ++ ['.'] ++ "append".toList =
      ([] ++ '<' :: reference) ++ '>' :: ([] ++ '.' :: "append".toList) := by simp
  rw [shape]
  apply Text.cut?_append (Token.opening_ne_nil _)
  rw [name, apart, Text.infix_append_cons_iff closes, Text.infix_append_cons_iff opens,
    Text.infix_append_cons_iff point]
  simp only [nothing, behind, named, or_self, not_false_eq_true]

/-- A reference with values behind it appends what comes back of them. -/
theorem appended_appending {reference : List Char}
    (named : ¬ Token.opening "append" <:+: reference) {values : Keyed Json}
    (plain : '(' ∉ Json.compactFields values.entries ∧ ')' ∉ Json.compactFields values.entries) :
    (ofLine (appending reference values)).appended = values.recovered := by
  have found := cut?_append named (Json.compactFields values.entries ++ [')'])
  have read := Token.rawValue?_of_cut? found (by decide) plain
  have blanks : ("append" == Token.verbatimName) = false := by decide
  show appendedOf (Token.value "append" _) = _
  rw [Token.value, appending, read]
  simp only [blanks, Bool.false_eq_true, if_false]
  exact appendedOf_filter values

end Filter

namespace Expansion

/-- An example shows the appended values at their keys, and at every other key what it shows
without them. -/
theorem get?_expand (expansion : Expansion) (filter : Filter) (name key : String) :
    (expansion.expand filter name).get? key =
      (filter.appended.get? key).or ((expansion.bare filter name).get? key) := by
  rcases expandSchema_root expansion filter expansion.budget name with ⟨value, expanded⟩
  rcases eq_object_of_expandSchema expanded with ⟨fields, rfl⟩
  rw [expand, bare, expanded]
  exact entryAt?_foldl_insertEntry filter.appended.distinct key fields

/-- Values that are written behind a reference append what comes back of them when their text
loses its blanks and is read.  That is the values themselves exactly if nothing is lost of them
and they are not nested too deeply.  The example shows whatever has come back at its keys, and
at every other key what it shows without. -/
theorem appended_values_come_back (expansion : Expansion) (reference : String)
    (values : Keyed Json) (named : ¬ Token.opening "append" <:+: reference.toList)
    (plain : '(' ∉ Json.compactFields values.entries ∧ ')' ∉ Json.compactFields values.entries) :
    let filter := Filter.ofLine (Filter.appending reference.toList values)
    filter.appended = values.recovered ∧
      (filter.appended = values ↔ (Json.object values.entries).nesting ≤ Json.maxNesting ∧
        (Json.object values.entries).Survives) ∧
      ∀ key, (expansion.expand filter reference).get? key =
        (filter.appended.get? key).or ((expansion.bare filter reference).get? key) := by
  intro filter
  have back : filter.appended = values.recovered := Filter.appended_appending named plain
  refine ⟨back, ?_, get?_expand expansion filter reference⟩
  rw [back]
  exact values.recovered_eq_iff

/-- A post with a quoted word and a tab in its title, a rating that is no integer, and tags that
are nested. -/
theorem appended_values_come_back_post :
    let values : Keyed Json :=
      ⟨[("title", .text "\"Dolor\"\t"), ("rating", .number (.real ⟨false, 1024, 0x4000000000000⟩)),
        ("tags", .list [.null, .object [("weight", .number (.integer (-7) (by decide)))]])],
        by decide⟩
    let filter := Filter.ofLine (Filter.appending "Post".toList values)
    (¬ Token.opening "append" <:+: "Post".toList) ∧
      ('(' ∉ Json.compactFields values.entries ∧ ')' ∉ Json.compactFields values.entries) ∧
      Filter.appending "Post".toList values = ("<Post>.append(\"title\":\"\\\"Dolor\\\"\\t\"," ++
        "\"rating\":2.5,\"tags\":[null,\x7b\"weight\":-7\x7d])").toList ∧
      filter.appended = values ∧
      (expand ⟨Catalog.blog, 2⟩ filter "Post").get? "title" = some (.text "\"Dolor\"\t") := by
  intro values filter
  have named : ¬ Token.opening "append" <:+: "Post".toList := by decide
  have plain : '(' ∉ Json.compactFields values.entries ∧
      ')' ∉ Json.compactFields values.entries := by decide +kernel
  have whole := appended_values_come_back ⟨Catalog.blog, 2⟩ "Post" values named plain
  have same : filter.appended = values := whole.2.1.mpr (by decide +kernel)
  refine ⟨named, plain, by decide +kernel, same, (whole.2.2 "title").trans ?_⟩
  show (filter.appended.get? "title").or _ = _
  rw [same]
  rfl

/-- Blanks within a text are lost, a real number may come back as its neighbour, and nothing
comes back of lists that are nested deeper than the reader follows. -/
theorem appended_name_loses_blank :
    let named : Keyed Json := ⟨[("name", .text "John Doe")], by decide⟩
    let large : Keyed Json :=
      ⟨[("amount", .number (.real ⟨false, 1100, 0xfc3842bd1f072⟩))], by decide⟩
    let deep : Keyed Json :=
      ⟨[("lists", (List.range 127).foldl (fun inner _ => .list [inner]) .null)], by decide⟩
    let filter := Filter.ofLine "<User>.append(\"name\":\"John Doe\")".toList
    Filter.appending "User".toList named = "<User>.append(\"name\":\"John Doe\")".toList ∧
      filter.appended = ⟨[("name", .text "JohnDoe")], by decide⟩ ∧
      (expand ⟨Catalog.blog, 2⟩ filter "User").get? "name" = some (.text "JohnDoe") ∧
      Filter.appending "User".toList large = "<User>.append(\"amount\":3e+23)".toList ∧
      (Filter.ofLine (Filter.appending "User".toList large)).appended =
        ⟨[("amount", .number (.real ⟨false, 1100, 0xfc3842bd1f071⟩))], by decide⟩ ∧
      '(' ∉ Json.compactFields deep.entries ∧ ')' ∉ Json.compactFields deep.entries ∧
      (Filter.ofLine (Filter.appending "User".toList deep)).appended = .empty := by
  decide +kernel

end Expansion
end Routebook
