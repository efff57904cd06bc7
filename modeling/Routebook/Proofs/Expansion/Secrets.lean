import Routebook.Proofs.Catalog.Secrets
import Routebook.Proofs.Expansion.Step

namespace Routebook
namespace Expansion

/-!
# Secrets in an example

An example of guarded properties shows a secret only on request, and then without a value.
The reason is one step of the expansion: a secret appears only if the filter names it, it is
no relation, and its literal is empty.  Every other field has a single value, a placeholder or
the example of another schema, so a secret further inside is one of that other example.
-/

variable {expansion : Expansion} {filter : Filter} {hops : Hops} {key name : String}
  {property : Property} {value : Json}

/-- The filter names the secret, and its value says nothing. -/
def Concealed (filter : Filter) (key : String) (value : Json) : Prop :=
  (key ∈ filter.included ∨ key ∈ filter.selected) ∧ (value = .null ∨ value = .list [])

/-! ## Parts of an example -/

/-- What occurs within a wrapped value occurs within the value. -/
theorem holds_of_holds_wrap {inner : Json} (held : Json.Holds key value (wrap property inner)) :
    Json.Holds key value inner := by
  unfold wrap at held
  split at held
  · exact Json.holds_of_holds_list_singleton held
  · exact held

/-- Nothing occurs within the literal of a single value. -/
theorem not_holds_literal (scalar : property.sample.isScalar = true) :
    ¬ Json.Holds key value (literal property) := by
  intro held
  unfold literal at held
  split at held
  · exact Json.not_holds_list_nil held
  · exact Json.not_holds_of_isScalar scalar (holds_of_holds_wrap held)

/-- Nothing occurs within a placeholder. -/
theorem not_holds_placeholder : ¬ Json.Holds key value (placeholder property) := by
  unfold placeholder
  split
  · exact Json.not_holds_list_nil
  · exact Json.not_holds_object_nil

/-- The literal of a property without a sample is empty. -/
theorem literal_of_null (blank : property.sample = .null) :
    literal property = .null ∨ literal property = .list [] := by
  unfold literal wrap
  rw [blank]
  cases property.isArray with
  | false => exact Or.inl rfl
  | true => exact Or.inr rfl

/-- A secret that is shown is named by the filter. -/
theorem named_of_shows (shown : filter.shows hops key = true) (secret : isSecretName key = true) :
    key ∈ filter.included ∨ key ∈ filter.selected := by
  unfold Filter.shows at shown
  rcases Bool.or_eq_true_iff.mp shown with selected | admitted
  · exact Or.inr (List.contains_iff_mem.mp (Bool.and_eq_true_iff.mp selected).2)
  · have visible : filter.hidesSecret key = false := by
      simp only [Bool.and_eq_true, Bool.not_eq_true', Bool.or_eq_false_iff] at admitted
      exact admitted.2.1.2
    by_contra unnamed
    rcases not_or.mp unnamed with ⟨notIncluded, notSelected⟩
    simp [Filter.hidesSecret, secret, notIncluded, notSelected] at visible

/-! ## The expansion -/

/-- A secret that occurs in an expanded schema is concealed. -/
theorem concealed_of_holds_expandSchema (guarded : expansion.catalog.All Guarded) {budget : Nat}
    {whole : Json} (expanded : expansion.expandSchema filter budget hops name = some whole)
    (secret : isSecretName key = true) (held : Json.Holds key value whole) :
    Concealed filter key value := by
  induction budget generalizing hops name whole with
  | zero =>
    rcases Option.some.inj expanded with rfl
    exact absurd held Json.not_holds_object_nil
  | succ budget inductionHypothesis =>
    rcases expandSchema_cases expanded with rfl | ⟨less, schema, same, found, rfl⟩
    · exact absurd held Json.not_holds_object_nil
    rcases Nat.succ.inj same with rfl
    cases held with
    | here field =>
      rcases mem_expandFields field with ⟨property, written, appears⟩
      have rule : Guarded key property := guarded.of_get? found _ written
      rcases rule.concealed secret with ⟨primitive, blank⟩
      rcases expandProperty_cases appears
          with ⟨shown, ⟨_, rfl⟩ | ⟨_, relation, _⟩ | ⟨_, _, followed, _⟩⟩
      · exact ⟨named_of_shows shown secret, literal_of_null blank⟩
      · exact absurd (primitive.symm.trans relation) nofun
      · exact absurd (primitive.symm.trans followed.2.1) nofun
    | within field deeper =>
      rcases mem_expandFields field with ⟨property, written, appears⟩
      have rule : Guarded _ property := guarded.of_get? found _ written
      rcases expandProperty_cases appears
          with ⟨_, ⟨_, rfl⟩ | ⟨_, _, _, rfl⟩ | ⟨_, nested, _, reached, rfl⟩⟩
      · exact absurd deeper (not_holds_literal rule.scalar)
      · exact absurd deeper not_holds_placeholder
      · exact inductionHypothesis reached (holds_of_holds_wrap deeper)

/-- What occurs under an overlay was there before, or is appended. -/
theorem holds_overlay {appended : Keyed Json} {whole : Json}
    (held : Json.Holds key value (overlay appended whole)) :
    Json.Holds key value whole ∨ Json.Holds key value (.object appended.entries) := by
  cases whole with
  | object fields =>
    cases held with
    | here field =>
      exact (mem_or_mem_of_mem_foldl_insertEntry field).imp .here .here
    | within field deeper =>
      exact (mem_or_mem_of_mem_foldl_insertEntry field).imp (.within · deeper) (.within · deeper)
  | _ => exact Or.inl held

/-- A secret that occurs in the example of a reference is appended by the filter or
concealed. -/
theorem concealed_of_holds_expandReference (guarded : expansion.catalog.All Guarded)
    {reference : List Char} (secret : isSecretName key = true)
    (held : Json.Holds key value (expansion.expandReference filter reference)) :
    Json.Holds key value (.object filter.appended.entries) ∨ Concealed filter key value := by
  have single : ∀ name, Json.Holds key value (expansion.expand filter name) →
      Json.Holds key value (.object filter.appended.entries) ∨ Concealed filter key value := by
    intro name held
    rcases expandSchema_root expansion filter expansion.budget name with ⟨whole, expanded⟩
    rw [expand, bare, expanded, Option.getD_some] at held
    rcases holds_overlay held with inside | appended
    · exact Or.inr (concealed_of_holds_expandSchema guarded expanded secret inside)
    · exact Or.inl appended
  dsimp only [expandReference] at held
  split at held
  · exact single _ (Json.holds_of_holds_list_singleton held)
  · exact single _ held

/-! ## All sources -/

/-- No source gives a secret away, whatever it says and whatever the stream draws.  In the
catalog a secret has no sample, so its component has no example and neither have its items.
In the example of a reference a secret occurs as the filter appends it, or else the filter
names it and its value is null or an empty list. -/
theorem build_conceals_secrets (interfaces models : List Source) (snake : Bool)
    (stream : RandomStream) :
    (Catalog.build interfaces models snake stream).All (fun key property =>
      isSecretName key = true → property.sample = .null) ∧
    (∀ component ∈ (Catalog.build interfaces models snake stream).components,
      ∀ properties, component.2.properties = some properties → ∀ entry ∈ properties,
        isSecretName entry.1 = true → entry.2.sample = none ∧
          ∀ items, entry.2.items = some items → items.sample = none) ∧
    ∀ maxDepth filter reference key value, isSecretName key = true →
      Json.Holds key value
        (expandReference ⟨Catalog.build interfaces models snake stream, maxDepth⟩ filter
          reference) →
        Json.Holds key value (.object filter.appended.entries) ∨
          (key ∈ filter.included ∨ key ∈ filter.selected) ∧
            (value = .null ∨ value = .list []) := by
  have guarded : (Catalog.build interfaces models snake stream).All Guarded :=
    Catalog.guarded_build interfaces models snake stream
  refine ⟨?_, ?_, ?_⟩
  · intro schema member entry written secret
    exact ((guarded schema member entry written).concealed secret).2
  · intro component member properties published entry listed secret
    rcases List.mem_map.mp member with ⟨schema, known, rfl⟩
    rcases Option.some.inj published with rfl
    rcases List.mem_map.mp listed with ⟨source, written, rfl⟩
    exact SchemaObject.sample_ofProperty ((guarded schema known source written).concealed secret).2
  · intro maxDepth filter reference key value secret held
    exact concealed_of_holds_expandReference guarded secret held

/-- A login whose comment gives an example for its password. -/
def loginSource : Source :=
  ⟨"login.ts", "interface Login \x7b\n// example(hunter2)\npassword: string\n\x7d"⟩

/-- A request for the password. -/
def loginFilter : Filter :=
  { Filter.blank with included := ["password"] }

/-- The example of a login for that request. -/
def loginSample : Json :=
  expandReference ⟨Catalog.build [loginSource] [] false (.ofSeed 0), 1⟩ loginFilter "Login".toList

/-- The password of a login is there on request, and it is concealed wherever it is. -/
theorem build_conceals_login :
    Json.Holds "password" .null loginSample ∧
      ∀ value, Json.Holds "password" value loginSample →
        Concealed loginFilter "password" value := by
  have shape : loginSample = .object [("password", .null)] := by decide +kernel
  constructor
  · rw [shape]
    exact .here (List.mem_singleton_self _)
  · intro value held
    -- The filter appends nothing, so only what the catalog says is left.
    exact ((build_conceals_secrets [loginSource] [] false (.ofSeed 0)).2.2 1 loginFilter
      "Login".toList "password" value rfl held).resolve_left Json.not_holds_object_nil

end Expansion
end Routebook
