import Routebook.Proofs.Expansion.Ending

namespace Routebook

/-!
# Examples grow with their filters

A filter names relations and secrets to include, and fields to exclude.  The expansion tests
these entries in five places: with the bare name of a field, with its path, with a prefix of a
path, and with the words `relations` and `timestamps`.  Each test can only turn in favour of a
field when an entry is included or is no longer excluded.  The example of a filter that
includes more and excludes less therefore contains the example of the other filter, as long as
both select the same fields and append the same values.

Containment is stated along the schemas.  A field that is no relation, an appended value and a
placeholder have to be equal; only what a relation that was followed leads to may grow.  The
number of relations that may still be followed tells a placeholder from an example that
happens to be empty.
-/

namespace Catalog

/-- The two values of a property, one within the other.  `below` compares what relations lead
to, and is missing where no relation may be followed. -/
def FieldWithin (below : Option (String → Json → Json → Prop)) (property : Property)
    (value other : Json) : Prop :=
  match property.relation?, below with
  | none, _ => other = value
  | some _, none => value = Expansion.placeholder property ∧ other = value
  | some target, some compare => ∃ inner outer, value = Expansion.wrap property inner ∧
      other = Expansion.wrap property outer ∧ compare target inner outer

/-- One object is within the other: every key of the first is a key of the second.  Under an
appended key both have the appended value, and under any other key the two values of a property
of the schema. -/
structure ObjectWithin (catalog : Catalog) (appended : Keyed Json)
    (below : Option (String → Json → Json → Prop)) (name : String) (value other : Json) : Prop
    where
  object : ∃ fields, value = .object fields
  otherObject : ∃ fields, other = .object fields
  field : ∀ key inner, value.get? key = some inner → ∃ outer, other.get? key = some outer ∧
    match appended.get? key with
    | some put => inner = put ∧ outer = put
    | none => ∃ schema property, catalog.get? name = some schema ∧
        schema.properties.get? key = some property ∧ FieldWithin below property inner outer

/-- One example of a schema is within another one.  From both, relations may be followed as
often as the number says; values are appended to the outermost object only. -/
def Within (catalog : Catalog) : (remaining : Nat) → Keyed Json → String → Json → Json → Prop
  | 0, appended => catalog.ObjectWithin appended none
  | remaining + 1, appended => catalog.ObjectWithin appended (some (catalog.Within remaining .empty))

/-- How the examples behind a relation compare. -/
def withinBelow (catalog : Catalog) : (remaining : Nat) → Option (String → Json → Json → Prop)
  | 0 => none
  | remaining + 1 => some (catalog.Within remaining .empty)

theorem within_iff {catalog : Catalog} {remaining : Nat} {appended : Keyed Json} {name : String}
    {value other : Json} :
    catalog.Within remaining appended name value other ↔
      catalog.ObjectWithin appended (catalog.withinBelow remaining) name value other := by
  cases remaining <;> exact Iff.rfl

theorem within_object_nil (catalog : Catalog) (remaining : Nat) (name : String) :
    catalog.Within remaining .empty name (.object []) (.object []) := by
  rw [within_iff]
  refine ⟨⟨_, rfl⟩, ⟨_, rfl⟩, ?_⟩
  rintro key inner ⟨⟩

end Catalog

/-! ## Filters -/

namespace Filter

/-- The first filter asks for at most what the second one asks for. -/
structure AtMost (first second : Filter) : Prop where
  selected : first.selected = second.selected
  appended : first.appended = second.appended
  included : ∀ entry ∈ first.included, entry ∈ second.included
  excluded : ∀ entry ∈ second.excluded, entry ∈ first.excluded

variable {first second : Filter} {hops : Hops} {key path entry : String}

namespace AtMost

variable (most : first.AtMost second)
include most

theorem contains_included (included : first.included.contains entry = true) :
    second.included.contains entry = true := by
  rw [List.contains_iff_mem] at included ⊢
  exact most.included entry included

theorem contains_excluded (excluded : second.excluded.contains entry = true) :
    first.excluded.contains entry = true := by
  rw [List.contains_iff_mem] at excluded ⊢
  exact most.excluded entry excluded

theorem includesPath (included : first.includesPath path = true) :
    second.includesPath path = true := by
  rw [Filter.includesPath, List.any_eq_true] at included ⊢
  rcases included with ⟨entry, member, reached⟩
  exact ⟨entry, most.included entry member, reached⟩

theorem excludes (excluded : second.excludes hops key = true) : first.excludes hops key = true := by
  simp only [Filter.excludes, Bool.or_eq_true, Bool.and_eq_true] at excluded ⊢
  exact excluded.imp most.contains_excluded (And.imp_right most.contains_excluded)

theorem hidesSecret (hidden : second.hidesSecret key = true) : first.hidesSecret key = true := by
  simp only [Filter.hidesSecret, Bool.and_eq_true, Bool.not_eq_true'] at hidden ⊢
  rcases hidden with ⟨⟨secret, notIncluded⟩, notSelected⟩
  refine ⟨⟨secret, ?_⟩, most.selected ▸ notSelected⟩
  rw [Bool.eq_false_iff] at notIncluded ⊢
  exact fun included => notIncluded (most.contains_included included)

theorem dropsTimestamp (dropped : second.dropsTimestamp key = true) :
    first.dropsTimestamp key = true := by
  simp only [Filter.dropsTimestamp, Bool.and_eq_true] at dropped ⊢
  exact dropped.imp_right most.contains_excluded

/-- What the first filter shows the second one shows too. -/
theorem shows (shown : first.shows hops key = true) : second.shows hops key = true := by
  have selects : first.selects hops key = second.selects hops key := by
    rw [selects, selects, most.selected]
  unfold Filter.shows at shown ⊢
  rw [selects, most.selected] at shown
  rcases Bool.or_eq_true_iff.mp shown with chosen | admitted
  · exact Bool.or_eq_true_iff.mpr (Or.inl chosen)
  · have still (test : Filter → Bool) (turns : test second = true → test first = true)
        (passed : test first = false) : test second = false :=
      Bool.eq_false_iff.mpr fun failed => Bool.eq_false_iff.mp passed (turns failed)
    apply Bool.or_eq_true_iff.mpr
    right
    simp only [Bool.and_eq_true, Bool.not_eq_true', Bool.or_eq_false_iff] at admitted ⊢
    rcases admitted with ⟨free, ⟨notExcluded, notHidden⟩, notDropped⟩
    refine ⟨free, ⟨?_, ?_⟩, ?_⟩
    · exact still (·.excludes hops key) most.excludes notExcluded
    · exact still (·.hidesSecret key) most.hidesSecret notHidden
    · exact still (·.dropsTimestamp key) most.dropsTimestamp notDropped

theorem requestsRelation (requested : first.requestsRelation key = true) :
    second.requestsRelation key = true := by
  simp only [Filter.requestsRelation, Bool.or_eq_true] at requested ⊢
  exact requested.imp most.contains_included most.includesPath

theorem requestsBranch (requested : first.requestsBranch hops = true) :
    second.requestsBranch hops = true := by
  simp only [Filter.requestsBranch, Bool.or_eq_true, Bool.and_eq_true] at requested ⊢
  exact requested.imp (Or.imp most.includesPath most.contains_included)
    (And.imp_right most.contains_included)

end AtMost

theorem atMost_including (filter : Filter) (entry : String) :
    filter.AtMost { filter with included := filter.included ++ [entry] } where
  selected := rfl
  appended := rfl
  included _ member := List.mem_append_left _ member
  excluded _ member := member

theorem excluding_atMost (filter : Filter) (entry : String) :
    AtMost { filter with excluded := filter.excluded ++ [entry] } filter where
  selected := rfl
  appended := rfl
  included _ member := member
  excluded _ member := List.mem_append_left _ member

end Filter

/-! ## The expansion -/

namespace Expansion

variable {expansion : Expansion} {first second : Filter} {hops : Hops} {key name target : String}
  {property : Property} {remaining : Nat} {value : Json}

theorem omitsRelation_of_atMost (most : first.AtMost second)
    (kept : expansion.omitsRelation first hops key target = false) :
    expansion.omitsRelation second hops key target = false := by
  unfold omitsRelation Filter.selects at kept ⊢
  rw [most.selected] at kept
  rw [Bool.eq_false_iff] at kept ⊢
  simp only [ne_eq, Bool.and_eq_true, Bool.not_eq_true', Bool.eq_false_iff] at kept ⊢
  rintro ⟨outermost, unrequested⟩
  exact kept ⟨outermost, fun requested => unrequested (most.requestsRelation requested)⟩

theorem omitsBranch_of_atMost (most : first.AtMost second)
    (kept : expansion.omitsBranch first hops name = false) :
    expansion.omitsBranch second hops name = false := by
  unfold omitsBranch at kept ⊢
  rw [Bool.eq_false_iff] at kept ⊢
  simp only [ne_eq, Bool.and_eq_true, Bool.not_eq_true', Bool.eq_false_iff] at kept ⊢
  rintro ⟨nested, unrequested⟩
  exact kept ⟨nested, fun requested => unrequested (most.requestsBranch requested)⟩

/-- A field that appears under the first filter appears under the second one, and its value is
within the other.  `follow` stands for the two expansions of what is behind a relation, which
are compared where a relation may still be followed. -/
theorem fieldWithin_of_expandProperty (most : first.AtMost second) (named : hops.Named)
    (depth : hops.length + remaining = expansion.maxDepth)
    {follow other : Hops → String → Option Json}
    (behind : ∀ less, remaining = less + 1 → ∀ target inner,
      follow (hops ++ [key]) target = some inner →
        ∃ outer, other (hops ++ [key]) target = some outer ∧
          expansion.catalog.Within less .empty target inner outer)
    (appears : expansion.expandProperty first hops follow key property = some value) :
    ∃ greater, expansion.expandProperty second hops other key property = some greater ∧
      Catalog.FieldWithin (expansion.catalog.withinBelow remaining) property value greater := by
  rcases expandProperty_cases appears with ⟨shown, cases⟩
  have seen : second.shows hops key = true := most.shows shown
  rcases cases with ⟨primitive, rfl⟩ | ⟨target, relation, capped, rfl⟩ |
    ⟨target, inner, followed, reached, rfl⟩
  · refine ⟨literal property, expandProperty_eq_literal seen primitive, ?_⟩
    unfold Catalog.FieldWithin
    rw [primitive]
  · have kept := omitsRelation_of_atMost most (omitsRelation_of_appears appears relation)
    refine ⟨placeholder property, expandProperty_eq_placeholder seen relation kept capped, ?_⟩
    have deepest : remaining = 0 := by omega
    unfold Catalog.FieldWithin
    rw [relation, deepest]
    exact ⟨rfl, rfl⟩
  · rcases followed with ⟨_, relation, kept, free⟩
    have further : ∃ less, remaining = less + 1 := ⟨remaining - 1, by omega⟩
    rcases further with ⟨less, rfl⟩
    rw [Hops.child_eq named] at reached
    rcases behind less rfl target inner reached with ⟨outer, there, within⟩
    have still : expansion.Follows second hops key property target :=
      ⟨seen, relation, omitsRelation_of_atMost most kept, free⟩
    refine ⟨wrap property outer, ?_, ?_⟩
    · rw [expandProperty_eq_follow still, Hops.child_eq named, there]
      rfl
    · unfold Catalog.FieldWithin
      rw [relation]
      exact ⟨inner, outer, rfl, rfl, within⟩

/-- The induction is on the budget, which both expansions share.  A branch that the first
filter keeps is kept by the second one, so the two run side by side. -/
theorem within_of_expandSchema (named : expansion.catalog.Named) (most : first.AtMost second)
    {budget : Nat} (namedHops : hops.Named)
    (depth : hops.length + remaining = expansion.maxDepth)
    (expanded : expansion.expandSchema first budget hops name = some value) :
    ∃ other, expansion.expandSchema second budget hops name = some other ∧
      expansion.catalog.Within remaining .empty name value other := by
  induction budget generalizing hops remaining name value with
  | zero =>
    rcases Option.some.inj expanded with rfl
    exact ⟨.object [], rfl, Catalog.within_object_nil _ _ _⟩
  | succ budget inductionHypothesis =>
    rw [expandSchema] at expanded ⊢
    cases found : expansion.catalog.get? name with
    | none =>
      rw [found] at expanded
      rcases Option.some.inj expanded with rfl
      exact ⟨.object [], rfl, Catalog.within_object_nil _ _ _⟩
    | some schema =>
      rw [found] at expanded
      dsimp only at expanded ⊢
      split at expanded
      · cases expanded
      next kept =>
        rw [if_neg (Bool.eq_false_iff.mp (omitsBranch_of_atMost most (Bool.eq_false_iff.mpr kept)))]
        rcases Option.some.inj expanded with rfl
        refine ⟨_, rfl, Catalog.within_iff.mpr ⟨⟨_, rfl⟩, ⟨_, rfl⟩, ?_⟩⟩
        intro key inner field
        rw [Json.get?_object, entryAt?_expandFields] at field
        rcases Option.bind_eq_some_iff.mp field with ⟨property, written, appears⟩
        -- A relation without a name would not count towards the depth.
        have nonempty : key ≠ "" := named.of_get? found _ (mem_of_entryAt?_eq_some written)
        have behind : ∀ less, remaining = less + 1 → ∀ target inner,
            expansion.expandSchema first budget (hops ++ [key]) target = some inner →
              ∃ outer, expansion.expandSchema second budget (hops ++ [key]) target = some outer ∧
                expansion.catalog.Within less .empty target inner outer := by
          intro less deeper target inner reached
          refine inductionHypothesis (namedHops.concat nonempty) ?_ reached
          simp only [List.length_append, List.length_singleton]
          omega
        rcases fieldWithin_of_expandProperty most namedHops depth behind appears with
          ⟨outer, there, within⟩
        refine ⟨outer, ?_, schema, property, found, written, within⟩
        rw [Json.get?_object, entryAt?_expandFields, written]
        exact there

theorem within_bare (named : expansion.catalog.Named) (most : first.AtMost second) (name : String) :
    expansion.catalog.Within expansion.maxDepth .empty name (expansion.bare first name)
      (expansion.bare second name) := by
  rcases expandSchema_root expansion first expansion.budget name with ⟨value, expanded⟩
  rcases within_of_expandSchema named most Hops.named_nil (Nat.zero_add _) expanded with
    ⟨other, there, within⟩
  rw [bare, bare, expanded, there]
  exact within

/-- Values that are appended to both objects go over them alike. -/
theorem within_overlay {catalog : Catalog} {other : Json} (appended : Keyed Json)
    (within : catalog.Within remaining .empty name value other) :
    catalog.Within remaining appended name (overlay appended value) (overlay appended other) := by
  rw [Catalog.within_iff] at within ⊢
  rcases within with ⟨⟨lesser, rfl⟩, ⟨greater, rfl⟩, field⟩
  refine ⟨⟨_, rfl⟩, ⟨_, rfl⟩, ?_⟩
  intro key inner there
  simp only [overlay, Json.get?_object, entryAt?_foldl_insertEntry appended.distinct] at there ⊢
  have put : entryAt? key appended.entries = appended.get? key := rfl
  rw [put] at there ⊢
  cases known : appended.get? key with
  | some new =>
    rw [known] at there
    have same : new = inner := Option.some.inj there
    exact ⟨new, rfl, same.symm, rfl⟩
  | none =>
    rw [known, Option.none_or] at there
    exact field key inner there

/-! ## Places -/

theorem eq_object_of_within {catalog : Catalog} {appended : Keyed Json} {other : Json}
    (within : catalog.Within remaining appended name value other) :
    (∃ fields, value = .object fields) ∧ ∃ fields, other = .object fields := by
  have objects := Catalog.within_iff.mp within
  exact ⟨objects.object, objects.otherObject⟩

/-- A place within a field is read in the objects behind a relation, if it goes on there at
all; everything else is equal on both sides. -/
theorem isSome_at?_of_fieldWithin {catalog : Catalog} {inner outer : Json} {keys : List String}
    (grown : Catalog.FieldWithin (catalog.withinBelow remaining) property inner outer)
    (behind : ∀ less, remaining = less + 1 → ∀ target small large,
      catalog.Within less .empty target small large →
        (small.at? keys).isSome = true → (large.at? keys).isSome = true)
    (there : (inner.at? keys).isSome = true) : (outer.at? keys).isSome = true := by
  unfold Catalog.FieldWithin at grown
  split at grown
  · rwa [grown]
  · rwa [grown.2]
  next target compare _ below =>
    rcases grown with ⟨small, large, rfl, rfl, nested⟩
    cases remaining with
    | zero => cases below
    | succ less =>
      rcases Option.some.inj below with rfl
      cases keys with
      | nil => rfl
      | cons next keys =>
        rcases eq_object_of_within nested with ⟨⟨smallFields, rfl⟩, largeFields, rfl⟩
        rw [at?_wrap_object _ _ (List.cons_ne_nil next keys)] at there ⊢
        exact behind less rfl target _ _ nested there

/-- What can be read in an example can be read in every example that it is within.  The
induction is on the place, of which each object takes one key. -/
theorem isSome_at?_of_within {catalog : Catalog} {appended : Keyed Json} {other : Json}
    (within : catalog.Within remaining appended name value other) {keys : List String}
    (there : (value.at? keys).isSome = true) : (other.at? keys).isSome = true := by
  induction keys generalizing remaining appended name value other with
  | nil => rfl
  | cons key keys inductionHypothesis =>
    rw [Catalog.within_iff] at within
    rcases within with ⟨⟨lesser, rfl⟩, ⟨greater, rfl⟩, field⟩
    rw [Json.at?_cons, Json.content_object] at there ⊢
    cases found : (Json.object lesser).get? key with
    | none =>
      rw [found] at there
      cases there
    | some inner =>
      rw [found, Option.bind_some] at there
      rcases field key inner found with ⟨outer, here, related⟩
      rw [here, Option.bind_some]
      cases put : appended.get? key with
      | some new =>
        -- Both objects have the appended value, whatever stood there before.
        rw [put] at related
        rwa [related.2, ← related.1]
      | none =>
        rw [put] at related
        rcases related with ⟨schema, property, _, _, grown⟩
        apply isSome_at?_of_fieldWithin grown _ there
        exact fun less _ target small large nested deeper => inductionHypothesis nested deeper

/-- An example grows with its filter.  If two filters select and append the same, and the
second one includes what the first one includes and excludes nothing else than the first one
excludes, then the example of the first filter is within that of the second one, and every
place that can be read in the one can be read in the other.  So an entry that is included takes
nothing away, and an entry that is excluded brings nothing in. -/
theorem examples_grow_with_filters (expansion : Expansion) (named : expansion.catalog.Named)
    (name : String) :
    (∀ first second : Filter, first.selected = second.selected →
      first.appended = second.appended →
      (∀ entry ∈ first.included, entry ∈ second.included) →
      (∀ entry ∈ second.excluded, entry ∈ first.excluded) →
        expansion.catalog.Within expansion.maxDepth first.appended name
          (expansion.expand first name) (expansion.expand second name) ∧
        ∀ keys, ((expansion.expand first name).at? keys).isSome = true →
          ((expansion.expand second name).at? keys).isSome = true) ∧
    (∀ filter : Filter, ∀ entry keys, ((expansion.expand filter name).at? keys).isSome = true →
      ((expansion.expand { filter with included := filter.included ++ [entry] } name).at?
        keys).isSome = true) ∧
    ∀ filter : Filter, ∀ entry keys,
      ((expansion.expand { filter with excluded := filter.excluded ++ [entry] } name).at?
        keys).isSome = true → ((expansion.expand filter name).at? keys).isSome = true := by
  have within (first second : Filter) (most : first.AtMost second) :
      expansion.catalog.Within expansion.maxDepth first.appended name
        (expansion.expand first name) (expansion.expand second name) := by
    rw [expand, expand, ← most.appended]
    exact within_overlay first.appended (within_bare named most name)
  refine ⟨?_, ?_, ?_⟩
  · intro first second selected appended included excluded
    have contained := within first second ⟨selected, appended, included, excluded⟩
    exact ⟨contained, fun keys there => isSome_at?_of_within contained there⟩
  · intro filter entry keys there
    exact isSome_at?_of_within (within _ _ (filter.atMost_including entry)) there
  · intro filter entry keys there
    exact isSome_at?_of_within (within _ _ (filter.excluding_atMost entry)) there

/-- The posts of a user without titles are within the posts with titles and authors. -/
theorem examples_grow_with_filters_blog :
    let first : Filter := { Filter.asking ["posts"] with excluded := ["posts.title"] }
    let second : Filter := .asking ["posts", "posts.author"]
    Catalog.blog.Named ∧ first.selected = second.selected ∧ first.appended = second.appended ∧
      (∀ entry ∈ first.included, entry ∈ second.included) ∧
      (∀ entry ∈ second.excluded, entry ∈ first.excluded) ∧
      Catalog.blog.Within 2 first.appended "User"
        (.object [("id", .null), ("posts", .list [.object []])])
        (.object [("id", .null), ("posts", .list [.object [("title", .text "Lorem"),
          ("author", .object [("id", .null), ("posts", .list [])])]])]) := by
  intro first second
  have named : Catalog.blog.Named := by decide
  have included : ∀ entry ∈ first.included, entry ∈ second.included := by decide
  have excluded : ∀ entry ∈ second.excluded, entry ∈ first.excluded := by decide
  have grown := ((examples_grow_with_filters ⟨Catalog.blog, 2⟩ named "User").1 first second rfl rfl
    included excluded).1
  have lesser : expand ⟨Catalog.blog, 2⟩ first "User" =
      .object [("id", .null), ("posts", .list [.object []])] := by decide +kernel
  have greater : expand ⟨Catalog.blog, 2⟩ second "User" =
      .object [("id", .null), ("posts", .list [.object [("title", .text "Lorem"),
        ("author", .object [("id", .null), ("posts", .list [])])]])] := by decide +kernel
  rw [lesser, greater] at grown
  exact ⟨named, rfl, rfl, included, excluded, grown⟩

end Expansion
end Routebook
