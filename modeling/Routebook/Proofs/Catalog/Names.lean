import Routebook.Proofs.Catalog.Rule

namespace Routebook

/-!
# Names of properties

Chains of relations are followed and filtered by the names of their properties.  Two
conditions on a catalog make these names readable from a path with points between them: no
name is empty, and no name holds a point.  Every catalog of sources meets the first one,
because both readers refuse a declaration whose name is empty after its quotes and marks are
taken off, and a change of case never empties a name.
-/

namespace Catalog

/-- No property has an empty name. -/
def Named (catalog : Catalog) : Prop :=
  catalog.All fun name _ => name ≠ ""

/-- No property has an empty name or a name with a point. -/
def PlainNamed (catalog : Catalog) : Prop :=
  catalog.All fun name _ => name ≠ "" ∧ '.' ∉ name.toList

theorem PlainNamed.named {catalog : Catalog} (plain : catalog.PlainNamed) : catalog.Named :=
  fun schema member entry written => (plain schema member entry written).1

instance (catalog : Catalog) : Decidable catalog.Named :=
  inferInstanceAs (Decidable (catalog.All fun name _ => name ≠ ""))

instance (catalog : Catalog) : Decidable catalog.PlainNamed :=
  inferInstanceAs (Decidable (catalog.All fun name _ => name ≠ "" ∧ '.' ∉ name.toList))

end Catalog

theorem ofList_ne_empty {text : List Char} (nonempty : text ≠ []) : String.ofList text ≠ "" := by
  intro empty
  have same : text = "".toList := by rw [← empty, String.toList_ofList]
  exact nonempty (same.trans String.toList_empty)

/-! ## Change of case -/

/-- The small form of a character has at least one character. -/
theorem lowerChar_ne_nil (c : Char) : Text.lowerChar c ≠ [] := by
  unfold Text.lowerChar
  split
  · exact List.cons_ne_nil _ _
  · split <;> exact List.cons_ne_nil _ _

/-- A name does not become empty in small letters. -/
theorem snakeCase_ne_nil {name : List Char} (nonempty : name ≠ []) : snakeCase name ≠ [] := by
  cases name with
  | nil => exact absurd rfl nonempty
  | cons c rest =>
    rw [snakeCase, snakeCaseFrom]
    refine List.append_ne_nil_of_left_ne_nil ?_ _
    split
    · exact List.append_ne_nil_of_right_ne_nil _ (lowerChar_ne_nil c)
    · exact List.cons_ne_nil _ _

/-! ## Readers -/

/-- A member that is read has a name. -/
theorem name_ne_empty_of_readMember {field type : List Char} {hint : Hint} {stream : RandomStream}
    {name : String} {property : Property}
    (read : (readMember field type hint stream).1 = some (name, property)) : name ≠ "" := by
  dsimp only [readMember] at read
  split at read
  · cases read
  next accepted =>
    have nonempty : (memberName field).1 ≠ [] := by
      intro empty
      exact accepted (by rw [empty]; rfl)
    have named : String.ofList (memberName field).1 = name := by
      split at read <;> exact congrArg Prod.fst (Option.some.inj read)
    exact named ▸ ofList_ne_empty nonempty

/-- A declaration that is split has a name.  Accessors and fields are taken apart in
different ways, and both parts then pass the same test. -/
theorem name_ne_nil_of_splitDeclaration? {declaration name type : List Char}
    (found : splitDeclaration? declaration = some (name, type)) : name ≠ [] := by
  have tested : ∀ field type' : List Char,
      (if (fieldName field).isEmpty || (fieldName field).contains ' ' then none
        else some (fieldName field, fieldType type')) = some (name, type) → name ≠ [] := by
    intro field type' accepted
    split at accepted
    · cases accepted
    next kept =>
      have same : fieldName field = name := congrArg Prod.fst (Option.some.inj accepted)
      intro empty
      exact kept (by rw [same, empty]; rfl)
  unfold splitDeclaration? at found
  split at found <;>
  · rcases Option.bind_eq_some_iff.mp found with ⟨parts, _, accepted⟩
    exact tested parts.1 parts.2 accepted

/-- No name is empty that either reader makes. -/
theorem keptByReading_named : KeptByReading fun name _ => name ≠ "" where
  member _ _ _ _ _ _ read := name_ne_empty_of_readMember read
  field snake _ name _ _ _ _ split := by
    have nonempty : name ≠ [] := name_ne_nil_of_splitDeclaration? split
    cases snake with
    | true => exact ofList_ne_empty (snakeCase_ne_nil nonempty)
    | false => exact ofList_ne_empty nonempty
  softDelete := by decide

/-- No property of a catalog of sources has an empty name. -/
theorem Catalog.named_build (interfaces models : List Source) (snake : Bool)
    (stream : RandomStream) : (Catalog.build interfaces models snake stream).Named :=
  all_build keptByReading_named interfaces models snake stream

end Routebook
