import Routebook.Proofs.Source.Fields

namespace Routebook

/-!
# Hidden fields

A comment or a decorator with a certain mark keeps the field below it out of the model.  The
mark reaches the field through the hint, and the hint holds only the lines that the scan
keeps: comments, lines of an open decorator, and lines on which nothing follows the
decorators.  A decorator with a comment behind it is therefore read as a declaration, which
declares nothing and ends the hint, and the field below is published with its mark lost.

The theorem here decides for every marked line whether the field below it is published.  It
looks at the one line that declares the name of the field, so that no other line can bring the
name into the model.
-/

/-- A line of a source alone declares a name: `above` and `below` are the other lines, and no
mark of the model brings the name in. -/
structure SoleDeclaration (snake : Bool) (source : Source) (above : List (List Char))
    (field : List Char) (below : List (List Char)) (name : String) : Prop where
  whole : Text.lines source.text.toList = above ++ field :: below
  declares : declaredName? snake field = some name
  elsewhere : ∀ line ∈ above ++ below, declaredName? snake line ≠ some name
  notDeleted : name = "deleted_at" →
    ∀ line ∈ Text.lines source.text.toList, marksDeletion line = false

namespace SoleDeclaration

variable {snake : Bool} {source : Source} {above below : List (List Char)} {field : List Char}
  {name : String}

/-- Whether a name that one line declares is in the model is decided at that line. -/
theorem mem_keys_iff (sole : SoleDeclaration snake source above field below name)
    (stream : RandomStream) :
    name ∈ (readModel snake source stream).1.properties.keys ↔
      (ModelScan.after snake stream above).Publishes field := by
  rw [mem_keys_readModel, sole.whole]
  constructor
  · rintro (⟨before, line, behind, whole, declares, published⟩ | ⟨deletion, line, member, marks⟩)
    · have absent : ∀ other ∈ above ++ below, other ≠ line := by
        intro other member same
        exact sole.elsewhere other member (same ▸ declares)
      rcases List.append_eq_append_iff.mp whole with ⟨between, rfl, rest⟩ | ⟨between, rfl, rest⟩
      · cases between with
        | nil =>
          obtain ⟨rfl, rfl⟩ := List.cons.inj rest
          rwa [List.append_nil] at published
        | cons first between =>
          obtain ⟨rfl, rfl⟩ := List.cons.inj rest
          exact absurd rfl (absent line (by simp))
      · cases between with
        | nil =>
          obtain ⟨rfl, rfl⟩ := List.cons.inj rest
          rwa [List.append_nil]
        | cons first between =>
          obtain ⟨rfl, rfl⟩ := List.cons.inj rest
          exact absurd rfl (absent line (by simp))
    · rw [← sole.whole] at member
      exact absurd marks (Bool.eq_false_iff.mp (sole.notDeleted deletion line member))
  · intro published
    exact Or.inl ⟨above, field, below, rfl, sole.declares, published⟩

/-- The line above decides: a kept mark hides the field, and behind a line that is not kept
only the field itself counts. -/
theorem mem_keys_iff_of_marked {before between : List (List Char)} {marked : List Char}
    (sole : SoleDeclaration snake source (before ++ marked :: between) field below name)
    (stream : RandomStream) (blank : ∀ line ∈ between, Text.trim line = [])
    (marks : hidesField (Text.trim marked) = true) :
    name ∈ (readModel snake source stream).1.properties.keys ↔
      ¬ (ModelScan.after snake stream before).Keeps marked ∧
        isStaticLine (Text.trim field) = false ∧
        hidesField (splitDecorators (Text.trim field)).1 = false := by
  have nonblank : Text.trim marked ≠ [] := by
    intro empty
    rw [empty, not_hidesField_nil] at marks
    exact Bool.false_ne_true marks
  have reached : ModelScan.after snake stream (before ++ marked :: between) =
      (ModelScan.after snake stream before).step snake marked := by
    rw [ModelScan.after, List.foldl_append, List.foldl_cons, ModelScan.foldl_step_of_blank blank]
    rfl
  rw [sole.mem_keys_iff stream, reached]
  by_cases keeps : (ModelScan.after snake stream before).Keeps marked
  · constructor
    · intro published
      exact absurd published (ModelScan.not_publishes_of_keeps keeps marks field)
    · rintro ⟨reads, _⟩
      exact absurd keeps reads
  · rw [ModelScan.publishes_of_not_keeps nonblank keeps sole.declares]
    simp only [keeps, not_false_eq_true, true_and]

end SoleDeclaration

/-- A mark in the decorators of a field always hides it.  A mark on the line above hides it
unless that line is read as a declaration: it begins outside of an open decorator, is no
comment, and has something behind its decorators.  The field below such a line is published
unless it is static or hidden by its own decorators. -/
theorem marked_field_published_iff {snake : Bool} {source : Source}
    {above below : List (List Char)} {field : List Char} {name : String}
    (sole : SoleDeclaration snake source above field below name) (stream : RandomStream) :
    (hidesField (splitDecorators (Text.trim field)).1 = true →
      name ∉ (readModel snake source stream).1.properties.keys) ∧
    ∀ before marked between, above = before ++ marked :: between →
      (∀ line ∈ between, Text.trim line = []) → hidesField (Text.trim marked) = true →
        (name ∈ (readModel snake source stream).1.properties.keys ↔
          (¬ 0 < (ModelScan.after snake stream before).openParens ∧
              isComment (Text.trim marked) = false ∧
              (splitDecorators (Text.trim marked)).2 ≠ []) ∧
            isStaticLine (Text.trim field) = false ∧
            hidesField (splitDecorators (Text.trim field)).1 = false) := by
  constructor
  · intro hides member
    have published := (sole.mem_keys_iff stream).mp member
    rw [published.decorators] at hides
    exact Bool.false_ne_true hides
  · rintro before marked between rfl blank marks
    rw [sole.mem_keys_iff_of_marked stream blank marks, ModelScan.Keeps, not_or, not_or,
      Bool.not_eq_true]

/-! ## An account with a key -/

namespace Source

/-- A comment follows the decorator that hides the key of an account. -/
def account : Source :=
  ⟨"app/models/account.ts",
    "class Account \x7b
  @column(\x7b serializeAs: null \x7d) // internal
  declare apiKey: string
\x7d
"⟩

/-- The decorator with the comment behind it. -/
def accountMark : List Char := "  @column(\x7b serializeAs: null \x7d) // internal".toList

/-- The declaration of the key. -/
def accountKey : List Char := "  declare apiKey: string".toList

theorem soleDeclaration_account :
    SoleDeclaration true account ["class Account \x7b".toList, accountMark] accountKey
      ["\x7d".toList] "api_key" where
  whole := by decide +kernel
  declares := by decide +kernel
  elsewhere := by decide +kernel
  notDeleted := by decide

end Source

/-- The line above the key is a decorator whose parentheses are closed and which holds the
mark, and yet the key is published. -/
theorem account_key_published :
    SoleDeclaration true Source.account ["class Account \x7b".toList, Source.accountMark]
        Source.accountKey ["\x7d".toList] "api_key" ∧
      Text.startsWith ['@'] (Text.trim Source.accountMark) = true ∧
      parenBalance (Text.trim Source.accountMark) = 0 ∧
      mentions (Text.trim Source.accountMark) "serializeAs: null" = true ∧
      (readModel true Source.account (RandomStream.ofSeed 0)).1.properties.keys = ["api_key"] := by
  refine ⟨Source.soleDeclaration_account, ?_, ?_, ?_, ?_⟩
  · decide +kernel
  · decide +kernel
  · decide +kernel
  · decide +kernel

/-- The line above the key is read as a declaration, and nothing else hides the key. -/
theorem marked_field_published_account :
    SoleDeclaration true Source.account ["class Account \x7b".toList, Source.accountMark]
        Source.accountKey ["\x7d".toList] "api_key" ∧
      hidesField (Text.trim Source.accountMark) = true ∧
      "api_key" ∈ (readModel true Source.account (RandomStream.ofSeed 0)).1.properties.keys := by
  have marks : hidesField (Text.trim Source.accountMark) = true := by decide +kernel
  have decided := (marked_field_published_iff Source.soleDeclaration_account
    (RandomStream.ofSeed 0)).2 ["class Account \x7b".toList] Source.accountMark [] rfl
      (by simp) marks
  refine ⟨Source.soleDeclaration_account, marks, decided.mpr ⟨⟨?_, ?_, ?_⟩, ?_, ?_⟩⟩
  · decide +kernel
  · decide +kernel
  · decide +kernel
  · decide +kernel
  · decide +kernel

end Routebook
