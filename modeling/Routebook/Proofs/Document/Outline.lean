import Mathlib.Data.List.Induction
import Routebook.Document
import Routebook.Options.Reader
import Routebook.Proofs.Entries

namespace Routebook

/-!
# Operations of an outline

Routes are added to an outline one after the other.  Several routes may have the same path,
since the names of parameters are all that is left of a pattern, and they may document the
same methods of it.  The outline then holds the operation of the last of them, while paths
and methods stay where they were first written.

`Route.Documents` says without the outline which methods a route documents, and `addRoute_eq`
that a route adds the operations of these methods.  `Outline.Lists` is what a sequence of
routes leaves behind.  Routes are added at the end of the sequence, so that the induction over
it takes them from there.
-/

/-! ## Documented methods -/

namespace Options

/-- Of PUT and PATCH the method that is not preferred. -/
def secondary (options : Options) : Method :=
  if options.preferred = .put then .patch else .put

/-- Options that were read prefer PUT or PATCH. -/
theorem preferred_of_read {text : List Char} {options : Options}
    (accepted : read text = .ok options) :
    options.preferred = .put ∨ options.preferred = .patch := by
  unfold read at accepted
  split at accepted
  · rw [← Except.ok.inj accepted]
    exact Or.inl rfl
  · split at accepted
    · cases accepted
    next known _ =>
      split at accepted
      next update =>
        rw [← Except.ok.inj accepted]
        simpa using update
      · cases accepted

end Options

/-- The route documents the method: the pattern is not ignored, the method is one of the
route and not HEAD, and of PUT and PATCH together only the preferred one counts. -/
structure Route.Documents (options : Options) (route : Route) (method : Method) : Prop where
  shown : options.isIgnored route.pattern = false
  declared : method ∈ route.methods.toList
  answered : method ≠ .head
  preferred : .put ∈ route.methods.toList → .patch ∈ route.methods.toList →
    method ≠ options.secondary

theorem Route.documents_iff {options : Options} {route : Route} {method : Method} :
    route.Documents options method ↔
      options.isIgnored route.pattern = false ∧ method ∈ route.methods.toList ∧
        method ≠ .head ∧ (.put ∈ route.methods.toList → .patch ∈ route.methods.toList →
          method ≠ options.secondary) :=
  ⟨fun ⟨shown, declared, answered, preferred⟩ => ⟨shown, declared, answered, preferred⟩,
    fun ⟨shown, declared, answered, preferred⟩ => ⟨shown, declared, answered, preferred⟩⟩

instance (options : Options) (route : Route) (method : Method) :
    Decidable (route.Documents options method) :=
  decidable_of_iff' _ Route.documents_iff

/-- The documented methods of a route, in the order of its methods. -/
def Route.documented (options : Options) (route : Route) : List Method :=
  route.methods.toList.filter fun method => route.Documents options method

theorem Route.mem_documented {options : Options} {route : Route} {method : Method} :
    method ∈ route.documented options ↔ route.Documents options method := by
  rw [documented, List.mem_filter, decide_eq_true_eq]
  exact ⟨fun member => member.2, fun documents => ⟨documents.declared, documents⟩⟩

theorem Method.key_injective : Function.Injective Method.key := by
  intro first second same
  cases first <;> cases second <;> first | rfl | exact absurd same (by decide)

namespace Outline

variable {options : Options}

/-- The test of a method, which does not mention the secondary one, agrees with it. -/
theorem documentsMethod_iff (update : options.preferred = .put ∨ options.preferred = .patch)
    (methods : MethodSet) (method : Method) :
    documentsMethod options methods method = true ↔
      method ≠ .head ∧ (.put ∈ methods.toList → .patch ∈ methods.toList →
        method ≠ options.secondary) := by
  unfold documentsMethod MethodSet.contains Options.secondary
  rcases update with put | patch
  · rw [put]
    by_cases hasPut : Method.put ∈ methods.toList <;>
      by_cases hasPatch : Method.patch ∈ methods.toList <;>
        cases method <;> simp [hasPut, hasPatch]
  · rw [patch]
    by_cases hasPut : Method.put ∈ methods.toList <;>
      by_cases hasPatch : Method.patch ∈ methods.toList <;>
        cases method <;> simp [hasPut, hasPatch]

/-- A route adds the operations of the methods that it documents. -/
theorem addRoute_eq (update : options.preferred = .put ∨ options.preferred = .patch)
    (outline : Outline) (route : Route) (notes : Option Notes) :
    outline.addRoute options route notes =
      (route.documented options).foldl (fun outline method =>
        outline.addOperation route.path method (.of options route method notes)) outline := by
  unfold addRoute documents
  cases ignored : options.isIgnored route.pattern with
  | true =>
    have nothing : route.documented options = [] := by
      rw [Route.documented, List.filter_eq_nil_iff]
      intro method _ documents
      have shown := (decide_eq_true_eq.mp documents).shown
      rw [ignored] at shown
      cases shown
    rw [nothing]
    rfl
  | false =>
    have same : documentedMethods options route.methods = route.documented options := by
      apply List.filter_congr
      intro method declared
      rw [Bool.eq_iff_iff, documentsMethod_iff update, decide_eq_true_eq, Route.documents_iff]
      simp only [ignored, declared, true_and]
    rw [same]
    rfl

/-! ## One operation -/

/-- The operation of a path under a key. -/
def operation? (outline : Outline) (path key : String) : Option Operation :=
  (outline.paths.get? path).bind (·.get? key)

/-- The keys of the operations of a path. -/
def methodKeys (outline : Outline) (path : String) : List String :=
  ((outline.paths.get? path).getD .empty).keys

variable {outline : Outline} {path : String} {method : Method} {operation : Operation}

theorem operation?_addOperation (other key : String) :
    (outline.addOperation path method operation).operation? other key =
      if other = path ∧ key = method.key then some operation else outline.operation? other key := by
  unfold operation? addOperation
  rw [Keyed.get?_insert]
  by_cases same : other = path
  · subst same
    rw [if_pos rfl, Option.bind_some, Keyed.get?_insert]
    cases outline.paths.get? other with
    | none => simp [Keyed.get?, Keyed.empty, entryAt?]
    | some item => simp
  · rw [if_neg same, if_neg fun both => same both.1]

theorem keys_addOperation :
    (outline.addOperation path method operation).paths.keys =
      if path ∈ outline.paths.keys then outline.paths.keys else outline.paths.keys ++ [path] :=
  Keyed.keys_insert _ _ _

theorem methodKeys_addOperation_of_ne {other : String} (different : other ≠ path) :
    (outline.addOperation path method operation).methodKeys other = outline.methodKeys other := by
  unfold methodKeys addOperation
  rw [Keyed.get?_insert, if_neg different]

theorem methodKeys_addOperation_self {written : List String}
    (ordered : outline.methodKeys path = written.eraseDups) :
    (outline.addOperation path method operation).methodKeys path =
      (written ++ [method.key]).eraseDups := by
  unfold methodKeys addOperation
  rw [Keyed.get?_insert, if_pos rfl, Option.getD_some]
  exact Keyed.keys_insert_of_keys_eq ordered _ _

/-! ## The operations of one route -/

section Fold

variable (make : Method → Operation) (methods : List Method)

theorem operation?_foldl_addOperation (other : String) (sought : Method) :
    (methods.foldl (fun outline method => outline.addOperation path method (make method))
        outline).operation? other sought.key =
      if other = path ∧ sought ∈ methods then some (make sought)
      else outline.operation? other sought.key := by
  induction methods generalizing outline with
  | nil => simp
  | cons first rest inductionHypothesis =>
    have keyed : sought.key = first.key ↔ sought = first := Method.key_injective.eq_iff
    rw [List.foldl_cons, inductionHypothesis, operation?_addOperation]
    by_cases here : other = path
    · by_cases later : sought ∈ rest
      · simp [here, later]
      · by_cases now : sought = first
        · subst now
          simp [here]
        · simp [here, later, now, keyed]
    · simp [here]

theorem keys_foldl_addOperation :
    (methods.foldl (fun outline method => outline.addOperation path method (make method))
        outline).paths.keys =
      if methods = [] ∨ path ∈ outline.paths.keys then outline.paths.keys
      else outline.paths.keys ++ [path] := by
  induction methods generalizing outline with
  | nil => simp
  | cons first rest inductionHypothesis =>
    have written : path ∈ (outline.addOperation path first (make first)).paths.keys :=
      Keyed.mem_keys_insert.mpr (Or.inl rfl)
    rw [List.foldl_cons, inductionHypothesis, if_pos (Or.inr written), keys_addOperation]
    simp only [List.cons_ne_nil, false_or]

theorem methodKeys_foldl_addOperation_of_ne {other : String} (different : other ≠ path) :
    (methods.foldl (fun outline method => outline.addOperation path method (make method))
        outline).methodKeys other = outline.methodKeys other := by
  induction methods generalizing outline with
  | nil => rfl
  | cons first rest inductionHypothesis =>
    rw [List.foldl_cons, inductionHypothesis, methodKeys_addOperation_of_ne different]

theorem methodKeys_foldl_addOperation_self {written : List String}
    (ordered : outline.methodKeys path = written.eraseDups) :
    (methods.foldl (fun outline method => outline.addOperation path method (make method))
        outline).methodKeys path = (written ++ methods.map Method.key).eraseDups := by
  induction methods generalizing outline written with
  | nil => rw [List.map_nil, List.append_nil]; exact ordered
  | cons first rest inductionHypothesis =>
    rw [List.foldl_cons, List.map_cons, List.append_cons]
    exact inductionHypothesis (methodKeys_addOperation_self ordered)

end Fold

/-! ## All routes -/

/-- The outline of routes with their annotations. -/
def ofRoutes (options : Options) (routes : List (Route × Option Notes)) : Outline :=
  routes.foldl (fun outline entry => outline.addRoute options entry.1 entry.2) empty

/-- The last of some routes that documents a method of a path. -/
def lastDocumenting? (options : Options) (routes : List (Route × Option Notes)) (path : String)
    (method : Method) : Option (Route × Option Notes) :=
  (routes.filter fun entry => entry.1.path = path ∧ entry.1.Documents options method).getLast?

/-- What an outline holds of routes: for every method of a path the operation of the last
route that documents it, the paths in the order of the routes that document something, and
the methods of a path in the order in which its routes document them. -/
structure Lists (options : Options) (outline : Outline) (routes : List (Route × Option Notes)) :
    Prop where
  operation : ∀ path (method : Method), outline.operation? path method.key =
    (lastDocumenting? options routes path method).map fun entry =>
      .of options entry.1 method entry.2
  paths : outline.paths.keys =
    ((routes.filter fun entry => entry.1.documented options ≠ []).map (·.1.path)).eraseDups
  methods : ∀ path, outline.methodKeys path =
    (((routes.filter fun entry => entry.1.path = path).flatMap
      (·.1.documented options)).map Method.key).eraseDups

theorem lists_empty (options : Options) : empty.Lists options [] where
  operation _ _ := rfl
  paths := rfl
  methods _ := rfl

/-- One more route is listed behind the others. -/
theorem Lists.addRoute (update : options.preferred = .put ∨ options.preferred = .patch)
    {routes : List (Route × Option Notes)} (lists : outline.Lists options routes)
    (route : Route) (notes : Option Notes) :
    (outline.addRoute options route notes).Lists options (routes ++ [(route, notes)]) := by
  rw [addRoute_eq update]
  refine ⟨?_, ?_, ?_⟩
  · intro path method
    rw [operation?_foldl_addOperation, lists.operation, lastDocumenting?, lastDocumenting?,
      List.filter_append]
    by_cases here : route.path = path ∧ route.Documents options method
    · have written : path = route.path ∧ method ∈ route.documented options :=
        ⟨here.1.symm, Route.mem_documented.mpr here.2⟩
      rw [if_pos written, List.filter_cons_of_pos (by simpa using here), List.filter_nil,
        List.getLast?_concat]
      rfl
    · have unwritten : ¬(path = route.path ∧ method ∈ route.documented options) :=
        fun written => here ⟨written.1.symm, Route.mem_documented.mp written.2⟩
      rw [if_neg unwritten, List.filter_cons_of_neg (by simpa using here), List.filter_nil,
        List.append_nil]
  · rw [keys_foldl_addOperation, lists.paths, List.filter_append, List.map_append]
    by_cases silent : route.documented options = []
    · rw [if_pos (Or.inl silent), List.filter_cons_of_neg (by simpa using silent)]
      simp
    · rw [List.filter_cons_of_pos (by simpa using silent), List.filter_nil, List.map_cons,
        List.map_nil, eraseDups_concat]
      simp only [silent, false_or, List.mem_eraseDups]
  · intro path
    rw [List.filter_append, List.flatMap_append, List.map_append]
    by_cases same : path = route.path
    · subst same
      rw [List.filter_cons_of_pos (by simp), List.filter_nil, List.flatMap_cons,
        List.flatMap_nil, List.append_nil]
      exact methodKeys_foldl_addOperation_self _ _ (lists.methods route.path)
    · rw [methodKeys_foldl_addOperation_of_ne _ _ same, lists.methods,
        List.filter_cons_of_neg (by simpa using Ne.symm same)]
      simp

/-- An outline lists the routes that were added to it. -/
theorem lists_ofRoutes (update : options.preferred = .put ∨ options.preferred = .patch)
    (routes : List (Route × Option Notes)) : (ofRoutes options routes).Lists options routes := by
  induction routes using List.reverseRecOn with
  | nil => exact lists_empty options
  | append_singleton routes entry inductionHypothesis =>
    rw [ofRoutes, List.foldl_append]
    exact inductionHypothesis.addRoute update entry.1 entry.2

theorem isSome_lastDocumenting?_iff {routes : List (Route × Option Notes)} :
    (lastDocumenting? options routes path method).isSome ↔
      ∃ entry ∈ routes, entry.1.path = path ∧ entry.1.Documents options method := by
  rw [lastDocumenting?, List.getLast?_isSome, ne_eq, List.filter_eq_nil_iff]
  simp only [decide_eq_true_eq, not_forall, not_not, exists_prop]

namespace Lists

variable {routes : List (Route × Option Notes)} (lists : outline.Lists options routes)
include lists

/-- A path that is listed has a method, and none of its methods is HEAD. -/
theorem of_get?_paths {item : PathItem} (found : outline.paths.get? path = some item) :
    item.keys = (((routes.filter fun entry => entry.1.path = path).flatMap
      (·.1.documented options)).map Method.key).eraseDups ∧
    item.keys ≠ [] ∧ Method.head.key ∉ item.keys := by
  have keys : outline.methodKeys path = item.keys := by
    rw [methodKeys, found, Option.getD_some]
  have ordered := keys.symm.trans (lists.methods path)
  refine ⟨ordered, ?_, ?_⟩
  · have listed : path ∈ outline.paths.keys :=
      Keyed.isSome_get?_iff.mp (Option.isSome_of_eq_some found)
    rw [lists.paths, List.mem_eraseDups, List.mem_map] at listed
    rcases listed with ⟨entry, member, same⟩
    rcases List.mem_filter.mp member with ⟨added, documenting⟩
    rcases List.exists_mem_of_ne_nil _ (decide_eq_true_eq.mp documenting) with ⟨method, documented⟩
    apply List.ne_nil_of_mem (a := method.key)
    rw [ordered, List.mem_eraseDups]
    apply List.mem_map_of_mem
    exact List.mem_flatMap.mpr ⟨entry, List.mem_filter.mpr ⟨added, decide_eq_true same⟩, documented⟩
  · rw [ordered, List.mem_eraseDups, List.mem_map]
    rintro ⟨method, member, same⟩
    rcases List.mem_flatMap.mp member with ⟨entry, _, documented⟩
    exact (Route.mem_documented.mp documented).answered (Method.key_injective same)

end Lists

/-- The paths of a document whose routes were added one after the other: there is an operation
for a method of a path if a route documents it, and it is the one of the last such route; paths
stand in the order of the first routes that document something of them, the methods of a path
in the order in which they were first documented; no path is without a method, and no method
is HEAD. -/
theorem document_lists_last_operations {text : List Char}
    (accepted : Options.read text = .ok options) (catalog : Catalog)
    (routes : List (Route × Option Notes)) :
    let outline := (Document.of options catalog (ofRoutes options routes)).outline
    (∀ path (method : Method), (outline.operation? path method.key).isSome ↔
      ∃ entry ∈ routes, entry.1.path = path ∧ entry.1.Documents options method) ∧
    (∀ path (method : Method), outline.operation? path method.key =
      (lastDocumenting? options routes path method).map fun entry =>
        .of options entry.1 method entry.2) ∧
    outline.paths.keys =
      ((routes.filter fun entry => entry.1.documented options ≠ []).map (·.1.path)).eraseDups ∧
    (∀ path item, outline.paths.get? path = some item →
      item.keys = (((routes.filter fun entry => entry.1.path = path).flatMap
        (·.1.documented options)).map Method.key).eraseDups ∧
      item.keys ≠ [] ∧ Method.head.key ∉ item.keys) := by
  intro outline
  have lists : outline.Lists options routes :=
    lists_ofRoutes (Options.preferred_of_read accepted) routes
  refine ⟨?_, lists.operation, lists.paths, fun path item => lists.of_get?_paths⟩
  intro path method
  rw [lists.operation, Option.isSome_map]
  exact isSome_lastDocumenting?_iff

/-- Requests that change a post, whose number may be missing. -/
def changePost : Route :=
  .of "/posts/:id?" ["PUT", "DELETE"] [] (.controller "posts" "update") 2

/-- Routes with two documented paths.  The first and the third route have the same one, the
second is ignored by default, and the fourth documents no method. -/
def postRoutes : List (Route × Option Notes) :=
  [(.of "/posts/:id" ["GET", "HEAD", "PUT", "PATCH"] ["auth"] (.controller "posts" "show") 2, none),
   (.of "/docs" ["GET"] [] (.closure "docs") 2, none),
   (changePost, none),
   (.of "/health" ["HEAD"] [] (.closure "health") 2, none),
   (.of "/posts" ["GET"] [] (.controller "posts" "index") 2, none)]

theorem postRoutes_list_last_operations :
    Options.read [] = .ok .default ∧
    let outline := (Document.of .default .initial (ofRoutes .default postRoutes)).outline
    outline.paths.keys = ["/posts/\x7bid\x7d", "/posts"] ∧
    outline.operation? "/posts/\x7bid\x7d" Method.put.key =
      some (.of .default changePost .put none) ∧
    (outline.operation? "/posts/\x7bid\x7d" Method.patch.key).isSome = false ∧
    ∀ item, outline.paths.get? "/posts/\x7bid\x7d" = some item →
      item.keys = ["get", "put", "delete"] := by
  have accepted : Options.read [] = .ok .default := rfl
  obtain ⟨documented, last, paths, methods⟩ :=
    document_lists_last_operations accepted .initial postRoutes
  refine ⟨accepted, ?_, ?_, ?_, ?_⟩
  · rw [paths]
    decide +kernel
  · rw [last]
    rfl
  · rw [Bool.eq_false_iff, ne_eq, documented]
    decide +kernel
  · intro item found
    rw [(methods _ item found).1]
    decide +kernel

end Outline
end Routebook
