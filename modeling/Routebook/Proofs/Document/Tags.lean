import Mathlib.Data.List.Basic
import Mathlib.Data.List.Induction
import Routebook.Proofs.Document.Outline

namespace Routebook

/-!
# Tags of the document

An operation that is added to an outline notes its tag and takes its place under a path and a
method.  If the place is taken, the earlier operation goes, but its tag stays noted.  The tags
of an outline can therefore not be read off its operations.  They are read off the additions,
which are all operations that the routes add, in the order in which they are added.

`Outline.Records` says what additions leave behind: their tags in the order of first appearance,
and under every place the last operation that was added there.  The two results below are about
one outline each way round: every tag of an operation is noted, and a noted tag has an operation
unless all operations with the tag were replaced.
-/

/-- Values in the order of first appearance are distinct. -/
theorem nodup_eraseDups {α : Type} [DecidableEq α] (values : List α) :
    values.eraseDups.Nodup := by
  induction values using List.reverseRecOn with
  | nil => exact List.nodup_nil
  | append_singleton values value inductionHypothesis =>
    rw [eraseDups_concat]
    split
    next => exact inductionHypothesis
    next fresh =>
      refine List.nodup_append.mpr ⟨inductionHypothesis, by simp, ?_⟩
      intro known member other single equal
      rw [equal, List.mem_singleton.mp single] at member
      exact fresh (List.mem_eraseDups.mp member)

/-- The tag of the operations of a route: that of the annotation in capitals, or else the one of
the route.  Either may be empty. -/
def Route.tagText (route : Route) (notes : Option Notes) : String :=
  match notes.bind (·.tag) with
  | some tag => String.ofList (Text.upper tag.toList)
  | none => route.tag

/-- An empty tag is no tag. -/
theorem Operation.tag_of (options : Options) (route : Route) (method : Method)
    (notes : Option Notes) :
    (Operation.of options route method notes).tag =
      if route.tagText notes = "" then none else some (route.tagText notes) := by
  have text : ((notes.bind (·.tag)).map fun tag => String.ofList (Text.upper tag.toList)).getD
      route.tag = route.tagText notes := by
    unfold Route.tagText
    cases notes.bind (·.tag) <;> rfl
  rw [Operation.of, tagOf]
  dsimp only
  rw [text]
  simp only [String.isEmpty_iff]

namespace Outline

/-! ## Additions -/

/-- An operation on its way to its place in an outline. -/
structure Addition where
  path : String
  method : Method
  operation : Operation

namespace Addition

/-- The addition goes to the place of an earlier one. -/
def Replaces (later earlier : Addition) : Prop :=
  later.path = earlier.path ∧ later.method = earlier.method

instance (later earlier : Addition) : Decidable (later.Replaces earlier) :=
  inferInstanceAs (Decidable (_ ∧ _))

end Addition

/-- The operations that routes add, in the order of the routes and of the methods that each of
them documents. -/
def additions (options : Options) (routes : List (Route × Option Notes)) : List Addition :=
  (routes.filter fun entry => documents options entry.1).flatMap fun entry =>
    (documentedMethods options entry.1.methods).map fun method =>
      ⟨entry.1.path, method, .of options entry.1 method entry.2⟩

def add (outline : Outline) (addition : Addition) : Outline :=
  outline.addOperation addition.path addition.method addition.operation

theorem ofRoutes_eq_foldl_add (options : Options) (routes : List (Route × Option Notes)) :
    ofRoutes options routes = (additions options routes).foldl add empty := by
  unfold ofRoutes additions
  generalize empty = outline
  induction routes generalizing outline with
  | nil => rfl
  | cons entry rest inductionHypothesis =>
    rw [List.foldl_cons, inductionHypothesis, addRoute, List.filter_cons]
    cases documents options entry.1 with
    | false => rfl
    | true =>
      rw [if_pos rfl, if_pos rfl, List.flatMap_cons, List.foldl_append, List.foldl_map]
      rfl

/-- The tags of the additions are those of the routes, once for every documented method. -/
theorem filterMap_tag_additions (options : Options) (routes : List (Route × Option Notes)) :
    (additions options routes).filterMap (·.operation.tag) =
      ((routes.filter fun entry => documents options entry.1).flatMap fun entry =>
        (documentedMethods options entry.1.methods).map fun _ =>
          entry.1.tagText entry.2).filter (· ≠ "") := by
  rw [additions, List.filterMap_flatMap, List.filter_flatMap]
  apply List.flatMap_congr
  intro entry _
  induction documentedMethods options entry.1.methods with
  | nil => rfl
  | cons method rest inductionHypothesis =>
    rw [List.map_cons, List.map_cons, List.filterMap_cons, inductionHypothesis,
      Operation.tag_of, List.filter_cons]
    by_cases empty : entry.1.tagText entry.2 = "" <;> simp [empty]

/-! ## What additions leave behind -/

/-- The last addition at a place. -/
def lastAt? (added : List Addition) (path key : String) : Option Addition :=
  added.reverse.find? fun addition => addition.path = path ∧ addition.method.key = key

/-- What an outline holds of the additions to it. -/
structure Records (outline : Outline) (added : List Addition) : Prop where
  tags : outline.tags = (added.filterMap (·.operation.tag)).eraseDups
  operation : ∀ path key, outline.operation? path key = (lastAt? added path key).map (·.operation)

variable {outline : Outline} {added : List Addition}

theorem records_empty : empty.Records [] where
  tags := rfl
  operation _ _ := rfl

/-- One more addition notes its tag behind the others, unless it is known, and takes its
place. -/
theorem Records.add (records : outline.Records added) (addition : Addition) :
    (outline.add addition).Records (added ++ [addition]) where
  tags := by
    have noted : (outline.add addition).tags =
        addition.operation.tag.toList.foldl addTag outline.tags := rfl
    rw [noted, List.filterMap_append, records.tags]
    cases tag : addition.operation.tag with
    | none => simp [tag]
    | some text =>
      have last : [addition].filterMap (·.operation.tag) = [text] := by simp [tag]
      rw [last, eraseDups_concat, Option.toList_some, List.foldl_cons, List.foldl_nil, addTag]
      simp only [List.contains_eq_mem, decide_eq_true_eq, List.mem_eraseDups]
  operation path key := by
    rw [Outline.add, operation?_addOperation, records.operation, lastAt?, lastAt?,
      List.reverse_append, List.reverse_singleton, List.singleton_append, List.find?_cons]
    by_cases here : path = addition.path ∧ key = addition.method.key
    · simp [here.1, here.2]
    · have apart : ¬(addition.path = path ∧ addition.method.key = key) :=
        fun same => here ⟨same.1.symm, same.2.symm⟩
      rw [if_neg here, decide_eq_false apart]

theorem records_ofRoutes (options : Options) (routes : List (Route × Option Notes)) :
    (ofRoutes options routes).Records (additions options routes) := by
  rw [ofRoutes_eq_foldl_add]
  induction additions options routes using List.reverseRecOn with
  | nil => exact records_empty
  | append_singleton added addition inductionHypothesis =>
    rw [List.foldl_append]
    exact inductionHypothesis.add addition

def Carries (outline : Outline) (tag : String) : Prop :=
  ∃ path key operation, outline.operation? path key = some operation ∧ operation.tag = some tag

theorem Records.mem_tags_iff (records : outline.Records added) {tag : String} :
    tag ∈ outline.tags ↔ ∃ addition ∈ added, addition.operation.tag = some tag := by
  rw [records.tags, List.mem_eraseDups, List.mem_filterMap]

/-- A tag is carried if an operation with the tag was added last at its place. -/
theorem Records.carries_iff (records : outline.Records added) {tag : String} :
    outline.Carries tag ↔ ∃ before addition after, added = before ++ addition :: after ∧
      addition.operation.tag = some tag ∧ ∀ later ∈ after, ¬ later.Replaces addition := by
  have place (addition : Addition) : (fun other : Addition => decide
      (other.path = addition.path ∧ other.method.key = addition.method.key)) =
        fun other => decide (other.Replaces addition) := by
    funext other
    rw [decide_eq_decide, Addition.Replaces, Method.key_injective.eq_iff]
  constructor
  · rintro ⟨path, key, operation, found, tagged⟩
    rw [records.operation] at found
    obtain ⟨addition, last, rfl⟩ := Option.map_eq_some_iff.mp found
    rw [lastAt?, List.find?_eq_some_iff_append] at last
    obtain ⟨here, behind, front, turned, free⟩ := last
    obtain ⟨rfl, rfl⟩ := of_decide_eq_true here
    refine ⟨front.reverse, addition, behind.reverse, ?_, tagged, ?_⟩
    · rw [← List.reverse_reverse added, turned]
      simp
    · intro later member replaces
      have apart := free later (List.mem_reverse.mp member)
      rw [congrFun (place addition) later] at apart
      simp [replaces] at apart
  · rintro ⟨before, addition, after, rfl, tagged, last⟩
    refine ⟨addition.path, addition.method.key, addition.operation, ?_, tagged⟩
    have found : lastAt? (before ++ addition :: after) addition.path addition.method.key =
        some addition := by
      rw [lastAt?, place, List.find?_eq_some_iff_append]
      refine ⟨decide_eq_true ⟨rfl, rfl⟩, after.reverse, before.reverse, by simp, ?_⟩
      intro later member
      simpa using last later (List.mem_reverse.mp member)
    rw [records.operation, found, Option.map_some]

/-! ## The tags of a document -/

/-- The tags of a document are distinct and not empty, every tag of an operation is one of them,
and they stand in the order in which the methods that the routes document, taken route by route,
first ask for them. -/
theorem tags_in_order_of_first_appearance (options : Options) (catalog : Catalog)
    (routes : List (Route × Option Notes)) :
    let outline := (Document.of options catalog (ofRoutes options routes)).outline
    outline.tags.Nodup ∧ "" ∉ outline.tags ∧
    (∀ tag, outline.Carries tag → tag ∈ outline.tags) ∧
    outline.tags = (((routes.filter fun entry => documents options entry.1).flatMap fun entry =>
      (documentedMethods options entry.1.methods).map fun _ =>
        entry.1.tagText entry.2).filter (· ≠ "")).eraseDups := by
  intro outline
  have records : outline.Records (additions options routes) := records_ofRoutes options routes
  have ordered := records.tags
  rw [filterMap_tag_additions] at ordered
  refine ⟨?_, ?_, ?_, ordered⟩
  · rw [ordered]
    exact nodup_eraseDups _
  · intro member
    rw [ordered, List.mem_eraseDups, List.mem_filter] at member
    simpa using member.2
  · intro tag carries
    obtain ⟨before, addition, after, parted, tagged, _⟩ := records.carries_iff.mp carries
    refine records.mem_tags_iff.mpr ⟨addition, ?_, tagged⟩
    rw [parted]
    exact List.mem_append_right before List.mem_cons_self

/-- The request for a list of users. -/
def listUsers : Route :=
  .of "/users" ["GET", "POST"] [] (.controller "users" "index") 2

/-- The list is declared twice, and the second declaration has an annotation with a tag. -/
def userRoutes : List (Route × Option Notes) :=
  [(listUsers, none), (.of "/docs" ["GET"] [] (.closure "docs") 2, none),
   (listUsers, some (.ofLines .initial .default "index" ["@tag accounts"]))]

theorem tags_in_order_users :
    let outline := (Document.of .default .initial (ofRoutes .default userRoutes)).outline
    outline.Carries "ACCOUNTS" ∧ "ACCOUNTS" ∈ outline.tags ∧
      outline.tags = ["USERS", "ACCOUNTS"] := by
  intro outline
  obtain ⟨_, _, covered, ordered⟩ := tags_in_order_of_first_appearance .default .initial userRoutes
  have carries : outline.Carries "ACCOUNTS" := by
    have found : ((outline.operation? "/users" "get").bind (·.tag)) = some "ACCOUNTS" := by
      decide +kernel
    obtain ⟨operation, here, tagged⟩ := Option.bind_eq_some_iff.mp found
    exact ⟨"/users", "get", operation, here, tagged⟩
  refine ⟨carries, covered _ carries, ?_⟩
  rw [ordered]
  decide +kernel

/-- The tags of a document are those that its routes ever asked for, and the tag of an operation
that was replaced stays.  A tag has an operation in the document exactly if an operation with the
tag was added and none was added later for the same path and method. -/
theorem tags_carried_unless_replaced (options : Options) (catalog : Catalog)
    (routes : List (Route × Option Notes)) (tag : String) :
    let outline := (Document.of options catalog (ofRoutes options routes)).outline
    (tag ∈ outline.tags ↔
      ∃ addition ∈ additions options routes, addition.operation.tag = some tag) ∧
    (outline.Carries tag ↔ ∃ before addition after,
      additions options routes = before ++ addition :: after ∧
        addition.operation.tag = some tag ∧ ∀ later ∈ after, ¬ later.Replaces addition) := by
  intro outline
  have records : outline.Records (additions options routes) := records_ofRoutes options routes
  exact ⟨records.mem_tags_iff, records.carries_iff⟩

/-- The second declaration replaces every operation of the first one, and the tag of the first
one is left. -/
theorem users_tag_outlives_operations :
    let outline := (Document.of .default .initial (ofRoutes .default userRoutes)).outline
    "USERS" ∈ outline.tags ∧ ¬ outline.Carries "USERS" := by
  refine ⟨by decide +kernel, ?_⟩
  rintro ⟨path, key, operation, found, tagged⟩
  obtain ⟨item, here, inside⟩ := Option.bind_eq_some_iff.mp found
  have free : (ofRoutes .default userRoutes).paths.All fun _ item =>
      item.All fun _ operation => operation.tag ≠ some "USERS" := by
    decide +kernel
  have kept : item.All fun _ operation => operation.tag ≠ some "USERS" := free.of_get? here
  exact kept.of_get? inside tagged

end Outline
end Routebook
