import Routebook.Proofs.Expansion.Drawing

namespace Routebook

/-!
# Chains of relations

A relation leads from one schema to another, and a chain of relations is what an example
nests.  The value at the end of a chain is read by the keys of its links.

Main statement: within the greatest depth a chain leads to the example of the schema at its
end if every link is visible behind the links before it, and to nothing at all otherwise.
-/

/-- A relation: the property and the name of the schema that it leads to. -/
structure Link where
  key : String
  property : Property
  target : String
  relation : property.relation? = some target

namespace Link

/-- The keys of a row of links. -/
def keys (links : List Link) : Hops :=
  links.map (·.key)

theorem keys_append (before after : List Link) : keys (before ++ after) = keys before ++ keys after :=
  List.map_append

theorem keys_singleton (link : Link) : keys [link] = [link.key] := rfl

end Link

namespace Catalog

/-- The links lead from the first schema to the last one, each written in the schema that the
link before it leads to. -/
inductive Chain (catalog : Catalog) : String → List Link → String → Prop where
  | nil (name : String) : Chain catalog name [] name
  | cons {name final : String} {schema : Schema} {link : Link} {links : List Link}
      (found : catalog.get? name = some schema)
      (written : schema.properties.get? link.key = some link.property)
      (rest : Chain catalog link.target links final) : Chain catalog name (link :: links) final

/-- A chain is a shorter chain and its last link. -/
theorem Chain.concat_inv {catalog : Catalog} {name final : String} {links : List Link}
    {link : Link} (chain : catalog.Chain name (links ++ [link]) final) :
    ∃ middle schema, catalog.Chain name links middle ∧ catalog.get? middle = some schema ∧
      schema.properties.get? link.key = some link.property ∧ link.target = final := by
  induction links generalizing name with
  | nil =>
    cases chain with
    | cons found written rest =>
      cases rest
      exact ⟨name, _, .nil name, found, written, rfl⟩
  | cons first links inductionHypothesis =>
    cases chain with
    | cons found written rest =>
      rcases inductionHypothesis rest with ⟨middle, schema, before, last⟩
      exact ⟨middle, schema, .cons found written before, last⟩

variable (catalog : Catalog) (filter : Filter)

/-- Every link is visible behind the hops and the links before it. -/
def VisibleAlong : Hops → List Link → Prop
  | _, [] => True
  | hops, link :: links =>
    catalog.Visible filter hops link.key link.target ∧ VisibleAlong (hops ++ [link.key]) links

instance decidableVisibleAlong : (hops : Hops) → (links : List Link) →
    Decidable (catalog.VisibleAlong filter hops links)
  | _, [] => inferInstanceAs (Decidable True)
  | hops, link :: links =>
    have := decidableVisibleAlong (hops ++ [link.key]) links
    inferInstanceAs (Decidable (catalog.Visible filter hops link.key link.target ∧
      catalog.VisibleAlong filter (hops ++ [link.key]) links))

variable {catalog filter}

theorem visibleAlong_concat {hops : Hops} {links : List Link} {link : Link} :
    catalog.VisibleAlong filter hops (links ++ [link]) ↔
      catalog.VisibleAlong filter hops links ∧
        catalog.Visible filter (hops ++ Link.keys links) link.key link.target := by
  induction links generalizing hops with
  | nil => simp [VisibleAlong, Link.keys]
  | cons first links inductionHypothesis =>
    simp [VisibleAlong, Link.keys, inductionHypothesis, and_assoc]

/-! ## Reading a drawn example -/

/-- A first link that is visible leads to what is drawn behind it. -/
theorem get?_drawn_of_visible {name : String} {schema : Schema} {link : Link}
    (found : catalog.get? name = some schema)
    (written : schema.properties.get? link.key = some link.property) (remaining : Nat)
    {hops : Hops} (visible : catalog.Visible filter hops link.key link.target) :
    (catalog.drawn filter (remaining + 1) hops name).get? link.key =
      some (Expansion.wrap link.property
        (catalog.drawn filter remaining (hops ++ [link.key]) link.target)) := by
  rw [get?_drawn found written, drawnField, link.relation]
  exact if_pos visible

/-- A first link that is not visible leads to nothing. -/
theorem get?_drawn_of_not_visible {name : String} {schema : Schema} {link : Link}
    (found : catalog.get? name = some schema)
    (written : schema.properties.get? link.key = some link.property) (remaining : Nat)
    {hops : Hops} (hidden : ¬ catalog.Visible filter hops link.key link.target) :
    (catalog.drawn filter (remaining + 1) hops name).get? link.key = none := by
  rw [get?_drawn found written, drawnField, link.relation]
  exact if_neg hidden

/-- A visible chain leads to what is drawn at its end. -/
theorem Chain.at?_of_visible {name final : String} {links : List Link}
    (chain : catalog.Chain name links final) {remaining : Nat} {hops : Hops} {value : Json}
    (drawn : value.content = catalog.drawn filter remaining hops name)
    (within : links.length ≤ remaining) (visible : catalog.VisibleAlong filter hops links) :
    ∃ inner, value.at? (Link.keys links) = some inner ∧
      inner.content = catalog.drawn filter (remaining - links.length)
        (hops ++ Link.keys links) final := by
  induction chain generalizing remaining hops value with
  | nil name => exact ⟨value, rfl, by simpa [Link.keys] using drawn⟩
  | @cons name final schema link links found written rest inductionHypothesis =>
    have positive : ∃ less, remaining = less + 1 :=
      ⟨remaining - 1, by simp only [List.length_cons] at within; omega⟩
    rcases positive with ⟨remaining, rfl⟩
    have step := get?_drawn_of_visible found written remaining visible.1
    rcases inductionHypothesis
      (content_wrap_drawn link.property remaining (hops ++ [link.key]) link.target)
      (Nat.le_of_succ_le_succ within) visible.2 with ⟨inner, reached, shape⟩
    refine ⟨inner, ?_, ?_⟩
    · rw [Link.keys, List.map_cons, Json.at?_cons, drawn, step]
      exact reached
    · rw [shape]
      simp [Link.keys]

/-- A chain with a link that is not visible leads to nothing. -/
theorem Chain.at?_of_not_visible {name final : String} {links : List Link}
    (chain : catalog.Chain name links final) {remaining : Nat} {hops : Hops} {value : Json}
    (drawn : value.content = catalog.drawn filter remaining hops name)
    (within : links.length ≤ remaining) (hidden : ¬ catalog.VisibleAlong filter hops links) :
    value.at? (Link.keys links) = none := by
  induction chain generalizing remaining hops value with
  | nil name => exact absurd trivial hidden
  | @cons name final schema link links found written rest inductionHypothesis =>
    have positive : ∃ less, remaining = less + 1 :=
      ⟨remaining - 1, by simp only [List.length_cons] at within; omega⟩
    rcases positive with ⟨remaining, rfl⟩
    rw [Link.keys, List.map_cons, Json.at?_cons, drawn]
    by_cases visible : catalog.Visible filter hops link.key link.target
    · rw [get?_drawn_of_visible found written remaining visible]
      exact inductionHypothesis
        (content_wrap_drawn link.property remaining (hops ++ [link.key]) link.target)
        (Nat.le_of_succ_le_succ within) fun further => hidden ⟨visible, further⟩
    · rw [get?_drawn_of_not_visible found written remaining visible]
      rfl

end Catalog

/-! ## A catalog with a cycle -/

/-- A user has posts. -/
def Link.posts : Link :=
  ⟨"posts", { Property.ofReference "Post" with isArray := true }, "Post", rfl⟩

/-- A post has a user as its author. -/
def Link.author : Link :=
  ⟨"author", Property.ofReference "User", "User", rfl⟩

/-- Users and posts refer to each other, so chains of any length exist. -/
def Catalog.blog : Catalog :=
  ⟨[⟨"User", .model, .ofList [("id", .ofPrimitive "number" .null),
        (Link.posts.key, Link.posts.property)]⟩,
      ⟨"Post", .model, .ofList [("title", .ofPrimitive "string" (.text "Lorem")),
        (Link.author.key, Link.author.property)]⟩],
    by decide⟩

theorem Catalog.chain_posts_author : blog.Chain "User" ([Link.posts] ++ [Link.author]) "User" :=
  .cons rfl rfl (.cons rfl rfl (.nil _))

/-- The filter that asks for some relations and says nothing else. -/
def Filter.asking (names : List String) : Filter :=
  { Filter.blank with included := names }

/-! ## Examples and chains -/

namespace Expansion

variable {expansion : Expansion} {filter : Filter}

/-- Behind a chain within the greatest depth every field is drawn if the chain is visible,
and none is there otherwise. -/
theorem at?_bare_field (plain : expansion.catalog.PlainNamed) (filter : Filter)
    {name middle key : String}
    {links : List Link} {schema : Schema} {property : Property}
    (chain : expansion.catalog.Chain name links middle)
    (found : expansion.catalog.get? middle = some schema)
    (written : schema.properties.get? key = some property)
    (within : links.length ≤ expansion.maxDepth) :
    (expansion.bare filter name).at? (Link.keys links ++ [key]) =
      if expansion.catalog.VisibleAlong filter [] links then
        expansion.catalog.drawnField filter (Link.keys links)
          (expansion.catalog.below filter (expansion.maxDepth - links.length) (Link.keys links) key)
          key property
      else none := by
  have whole : (expansion.bare filter name).content =
      expansion.catalog.drawn filter expansion.maxDepth [] name := by
    rw [bare_eq_drawn plain, Catalog.content_drawn]
  rw [Json.at?_concat]
  split
  next visible =>
    rcases chain.at?_of_visible whole within visible with ⟨inner, reached, shape⟩
    rw [reached, Option.bind_some, shape, Catalog.get?_drawn found written, List.nil_append]
  next hidden =>
    rw [chain.at?_of_not_visible whole within hidden]
    rfl

/-- The example of a schema is what its visible chains draw: within the greatest depth a
chain of relations leads to the example of the schema at its end, in a list if the last
relation is one, exactly if each of its links is visible, and to nothing otherwise. -/
theorem bare_drawn_by_visible_chains (expansion : Expansion)
    (plain : expansion.catalog.PlainNamed) (filter : Filter) (name : String) :
    expansion.bare filter name = expansion.catalog.drawn filter expansion.maxDepth [] name ∧
      ∀ links link final, expansion.catalog.Chain name (links ++ [link]) final →
        (links ++ [link]).length ≤ expansion.maxDepth →
        ((expansion.bare filter name).at? (Link.keys (links ++ [link])) =
            some (wrap link.property (expansion.catalog.drawn filter
              (expansion.maxDepth - (links ++ [link]).length) (Link.keys (links ++ [link])) final)) ↔
          expansion.catalog.VisibleAlong filter [] (links ++ [link])) ∧
        ((expansion.bare filter name).at? (Link.keys (links ++ [link])) = none ↔
          ¬ expansion.catalog.VisibleAlong filter [] (links ++ [link])) := by
  refine ⟨bare_eq_drawn plain filter name, ?_⟩
  intro links link final chain within
  rcases chain.concat_inv with ⟨middle, schema, before, found, written, rfl⟩
  rw [List.length_append, List.length_singleton] at within
  have further : ∃ remaining, expansion.maxDepth - links.length = remaining + 1 :=
    ⟨expansion.maxDepth - links.length - 1, by omega⟩
  rcases further with ⟨remaining, depth⟩
  have less : expansion.maxDepth - (links ++ [link]).length = remaining := by
    rw [List.length_append, List.length_singleton]
    omega
  have read := at?_bare_field plain filter before found written (by omega)
  rw [depth] at read
  rw [Link.keys_append, Link.keys_singleton, read, less, Catalog.visibleAlong_concat,
    List.nil_append, Catalog.drawnField, link.relation]
  by_cases along : expansion.catalog.VisibleAlong filter [] links <;>
    by_cases last : expansion.catalog.Visible filter (Link.keys links) link.key link.target <;>
      simp [along, last, Catalog.below]

/-- Users with their posts: the posts are there, and their authors are not, which nobody asked
for. -/
theorem bare_drawn_blog_posts :
    Catalog.blog.PlainNamed ∧
      (bare ⟨Catalog.blog, 2⟩ (.asking ["posts"]) "User").at? ["posts"] =
        some (.list [Catalog.blog.drawn (.asking ["posts"]) 1 ["posts"] "Post"]) ∧
      (bare ⟨Catalog.blog, 2⟩ (.asking ["posts"]) "User").at? ["posts", "author"] = none := by
  have plain : Catalog.blog.PlainNamed := by decide
  have chains := (bare_drawn_by_visible_chains ⟨Catalog.blog, 2⟩ plain (.asking ["posts"]) "User").2
  have posts := chains [] Link.posts "Post" (.cons rfl rfl (.nil _)) (by decide)
  have author := chains [Link.posts] Link.author "User" Catalog.chain_posts_author (by decide)
  exact ⟨plain, posts.1.mpr (by decide), author.2.mpr (by decide +kernel)⟩

end Expansion
end Routebook
