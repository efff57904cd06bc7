import Routebook.Json
import Routebook.Proofs.EntriesRel

namespace Routebook
namespace Json

/-!
# Values that differ in drawn numbers only

The numbers of examples are drawn, and another seed draws others.  Two values are alike if
neither shows more of its seed than such numbers: they are equal position by position, except
where both hold an integer that may have been drawn.
-/

/-- An integer that may have been drawn for an example. -/
def IsDrawn (value : Json) : Prop :=
  ∃ number inRange, 0 ≤ number ∧ number < 1000 ∧ value = .number (.integer number inRange)

/-- Lists have equal lengths and objects have the same keys in the same order, and leaves are
equal or two integers that may have been drawn. -/
inductive Alike : Json → Json → Prop
  | same (value : Json) : Alike value value
  | drawn {first second : Json} (left : first.IsDrawn) (right : second.IsDrawn) :
    Alike first second
  | list {first second : List Json} (items : List.Forall₂ Alike first second) :
    Alike (.list first) (.list second)
  | object {first second : List (String × Json)}
    (fields : List.Forall₂ (EntryRel Alike) first second) : Alike (.object first) (.object second)

/-- Fields with the same keys in the same order and values that are alike. -/
abbrev FieldsAlike (first second : List (String × Json)) : Prop :=
  EntriesRel Alike first second

theorem fieldsAlike_refl (fields : List (String × Json)) : FieldsAlike fields fields :=
  EntriesRel.refl Alike.same fields

theorem fieldsAlike_singleton (key : String) {first second : Json} (alike : first.Alike second) :
    FieldsAlike [(key, first)] [(key, second)] :=
  .cons (.of key alike) .nil

/-- A field is left out on both sides or on neither. -/
theorem fieldsAlike_optionalField {α : Type} (key : String) {encode encode' : α → Json}
    {related : α → α → Prop} {first second : Option α} (values : Option.Rel related first second)
    (keeps : ∀ value value', related value value' → (encode value).Alike (encode' value')) :
    FieldsAlike (optionalField key encode first) (optionalField key encode' second) := by
  cases values with
  | some value => exact fieldsAlike_singleton key (keeps _ _ value)
  | none => exact .nil

/-- The same for values that are written as they are. -/
theorem fieldsAlike_optionalValue (key : String) {first second : Option Json}
    (values : Option.Rel Alike first second) :
    FieldsAlike (optionalField key id first) (optionalField key id second) :=
  fieldsAlike_optionalField key values fun _ _ value => value

namespace Alike

variable {first second : Json}

/-- No drawn number is null, so that a test for null never shows the seed. -/
theorem isNull_eq (alike : first.Alike second) : first.isNull = second.isNull := by
  cases alike with
  | same => rfl
  | drawn left right =>
    rcases left with ⟨_, _, _, _, rfl⟩
    rcases right with ⟨_, _, _, _, rfl⟩
    rfl
  | list => rfl
  | object => rfl

theorem list_singleton (alike : first.Alike second) : (Json.list [first]).Alike (.list [second]) :=
  .list (.cons alike .nil)

end Alike
end Json
end Routebook
