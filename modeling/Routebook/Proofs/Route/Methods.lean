import Mathlib.Logic.Basic
import Routebook.Proofs.Document.Assembly
import Routebook.Route.Handler

namespace Routebook

/-!
# Methods of entries

An entry names its methods in any case, and its route keeps the ones that are known.  An entry
without any name yields no route.  An entry that names unknown methods only does yield one, and
this route is not harmless: it documents nothing, but its controller is read and may fail the
assembly.

What an assembly makes of such a route is stated for controllers that answer the same whenever
they are read.  A cache then holds nothing but what the controllers say, so that the outline of an
assembly does not depend on it, and an assembly is a fold over outlines (`assemble_steadily`).
-/

/-! ## Names of methods -/

namespace Method

theorem ofName?_eq_some_iff {name : String} {method : Method} :
    ofName? name = some method ↔ name = method.name := by
  constructor
  · intro found
    have same : (method.name == name) = true :=
      List.find?_some (p := fun other : Method => other.name == name) found
    exact (beq_iff_eq.mp same).symm
  · rintro rfl
    cases method <;> rfl

theorem mem_all (method : Method) : method ∈ all := by
  cases method <;> decide

end Method

/-- The methods of a set of names are those that a name in any case stands for. -/
theorem MethodSet.mem_ofTexts {texts : List String} {method : Method} :
    method ∈ (ofTexts texts).toList ↔
      ∃ text ∈ texts, String.ofList (Text.upper text.toList) = method.name := by
  rw [ofTexts, ofPredicate, List.mem_filter, List.contains_iff_mem, List.mem_filterMap]
  simp only [Method.mem_all, true_and, Method.ofText?, Method.ofName?_eq_some_iff]

/-- One of the names in the entry, written in capitals, is that of the method. -/
def RouteEntry.Names (entry : RouteEntry) (method : Method) : Prop :=
  ∃ text ∈ entry.methods, String.ofList (Text.upper text.toList) = method.name

namespace RouteEntry

variable {options : Options} {entry : RouteEntry} {route : Route}

theorem route?_eq_none_iff : entry.route? options = none ↔ entry.methods = [] := by
  unfold route?
  split
  next empty => exact iff_of_true rfl (List.isEmpty_iff.mp empty)
  next filled => exact iff_of_false nofun fun empty => filled (List.isEmpty_iff.mpr empty)

theorem mem_methods_of_route? (yields : entry.route? options = some route) {method : Method} :
    method ∈ route.methods.toList ↔ entry.Names method := by
  unfold route? at yields
  split at yields
  · cases yields
  · rw [← Option.some.inj yields]
    exact MethodSet.mem_ofTexts

theorem methods_eq_nil_of_route? (yields : entry.route? options = some route)
    (unknown : ∀ method, ¬ entry.Names method) : route.methods.toList = [] :=
  List.eq_nil_iff_forall_not_mem.mpr fun method member =>
    unknown method ((mem_methods_of_route? yields).mp member)

end RouteEntry

/-! ## Controllers that always answer the same -/

section Steady

variable {ε : Type} (answer : String → Except ε String) {catalog : Catalog} {options : Options}

/-- The reader of controllers that answer the same whenever they are read. -/
def steadily (controller : String) (state : Unit) : Except ε String × Unit :=
  (answer controller, state)

/-- The cache holds nothing but what the controllers say. -/
def NotesCache.Steady (catalog : Catalog) (options : Options) (cache : NotesCache) : Prop :=
  ∀ controller known, cache.get? controller = some known →
    ∃ text, answer controller = .ok text ∧ known = notesOf catalog options text

variable {answer}

theorem NotesCache.steady_empty : NotesCache.Steady answer catalog options .empty := nofun

/-- A request is answered by the controller itself, whatever the cache holds. -/
theorem NotesCache.Steady.lookup {cache : NotesCache} (steady : cache.Steady answer catalog options)
    (controller action : String) :
    ∃ behind : NotesCache, behind.Steady answer catalog options ∧
      cache.lookup (steadily answer) catalog options controller action () =
        ((answer controller).map fun text => (notesOf catalog options text).get? action,
          behind, ()) := by
  cases found : cache.get? controller with
  | some known =>
    obtain ⟨text, answered, rfl⟩ := steady controller known found
    refine ⟨cache, steady, ?_⟩
    rw [lookup_of_known found, answered]
    rfl
  | none =>
    cases answered : answer controller with
    | error error =>
      have failed : steadily answer controller () = (.error error, ()) := by
        rw [steadily, answered]
      exact ⟨cache, steady, lookup_of_error found failed⟩
    | ok text =>
      have succeeded : steadily answer controller () = (.ok text, ()) := by
        rw [steadily, answered]
      refine ⟨_, ?_, lookup_of_ok found succeeded⟩
      intro other known held
      rw [Keyed.get?_insert] at held
      split at held
      next same =>
        refine ⟨text, ?_, (Option.some.inj held).symm⟩
        rw [same, answered]
      next => exact steady other known held

variable (answer catalog options)

/-- The outline with a route added, or the error of the controller of the route. -/
def Outline.withRoute (outline : Outline) (route : Route) : Except ε Outline :=
  if documents options route then
    match route.handler with
    | .closure _ => .ok (outline.addRoute options route none)
    | .controller source action =>
      (answer source).map fun text =>
        outline.addRoute options route ((notesOf catalog options text).get? action)
  else .ok outline

variable {answer catalog options}

/-- The cache of an assembly decides nothing but which controllers are read again. -/
theorem Assembly.step_steadily {assembly : Assembly Unit}
    (steady : assembly.cache.Steady answer catalog options) (route : Route) :
    ∃ cache : NotesCache, cache.Steady answer catalog options ∧
      assembly.step (steadily answer) catalog options route =
        match assembly.outline.withRoute answer catalog options route with
        | .ok outline => (.ok (), ⟨outline, cache, ()⟩)
        | .error error => (.error error, ⟨assembly.outline, cache, ()⟩) := by
  unfold step Outline.withRoute
  split
  · cases route.handler with
    | closure name => exact ⟨assembly.cache, steady, rfl⟩
    | controller source action =>
      obtain ⟨behind, kept, found⟩ := steady.lookup source action
      refine ⟨behind, kept, ?_⟩
      dsimp only
      rw [found]
      cases answer source <;> rfl
  · exact ⟨assembly.cache, steady, rfl⟩

theorem Assembly.run_steadily (routes : List Route) {assembly : Assembly Unit}
    (steady : assembly.cache.Steady answer catalog options) :
    let run := assembly.run (steadily answer) catalog options routes
    run.1.map (fun _ => run.2.outline) =
      routes.foldlM (Outline.withRoute answer catalog options) assembly.outline := by
  induction routes generalizing assembly with
  | nil => rfl
  | cons route rest inductionHypothesis =>
    obtain ⟨cache, kept, stepped⟩ := step_steadily steady route
    dsimp only
    rw [run, stepped, List.foldlM_cons]
    cases assembly.outline.withRoute answer catalog options route with
    | error error => rfl
    | ok outline => exact @inductionHypothesis ⟨outline, cache, ()⟩ kept

/-- An assembly adds the routes one after the other, up to the first controller that fails. -/
theorem assemble_steadily (answer : String → Except ε String) (catalog : Catalog)
    (options : Options) (routes : List Route) :
    (assemble (steadily answer) catalog options routes ()).1 =
      (routes.foldlM (Outline.withRoute answer catalog options) Outline.empty).map
        (.of options catalog) := by
  have steady : (Assembly.start ()).cache.Steady answer catalog options :=
    NotesCache.steady_empty
  have ran := Assembly.run_steadily routes steady
  dsimp only at ran
  have started : (Assembly.start ()).outline = Outline.empty := rfl
  rw [started] at ran
  rw [assemble, ← ran]
  rcases (Assembly.start ()).run (steadily answer) catalog options routes with
    ⟨error | _, assembly⟩ <;> rfl

/-! ## Routes without methods -/

/-- The controller is read, if there is one, and may fail. -/
def readingOf (answer : String → Except ε String) : Option String → Except ε Unit
  | none => .ok ()
  | some controller => (answer controller).map fun _ => ()

/-- A route without methods adds no operation, no path and no tag. -/
theorem Outline.addRoute_of_methods_eq_nil {route : Route} (idle : route.methods.toList = [])
    (options : Options) (outline : Outline) (notes : Option Notes) :
    outline.addRoute options route notes = outline := by
  rw [addRoute, documentedMethods, idle]
  exact ite_self outline

theorem Outline.withRoute_of_methods_eq_nil {route : Route} (idle : route.methods.toList = [])
    (outline : Outline) :
    outline.withRoute answer catalog options route =
      (readingOf answer (controllerOf? options route)).map fun _ => outline := by
  unfold withRoute controllerOf?
  split
  · cases route.handler with
    | closure name => exact congrArg Except.ok (addRoute_of_methods_eq_nil idle options outline _)
    | controller source action =>
      dsimp only [readingOf]
      cases answer source with
      | error error => rfl
      | ok text => exact congrArg Except.ok (addRoute_of_methods_eq_nil idle options outline _)
  · rfl

/-- An assembly with a route without methods reads the controller of the route at its place, and
is otherwise the assembly without it. -/
theorem assemble_of_methods_eq_nil (answer : String → Except ε String) (catalog : Catalog)
    (options : Options) {route : Route} (idle : route.methods.toList = [])
    (before after : List Route) :
    (assemble (steadily answer) catalog options (before ++ route :: after) ()).1 = (do
      let _ ← (assemble (steadily answer) catalog options before ()).1
      readingOf answer (controllerOf? options route)
      (assemble (steadily answer) catalog options (before ++ after) ()).1) := by
  simp only [assemble_steadily, List.foldlM_append, List.foldlM_cons,
    Outline.withRoute_of_methods_eq_nil idle]
  cases before.foldlM (Outline.withRoute answer catalog options) Outline.empty with
  | error error => rfl
  | ok outline => cases readingOf answer (controllerOf? options route) <;> rfl

end Steady

/-! ## Entries without a known method -/

/-- An entry yields a route unless it names no methods at all, and the methods of the route are
those that it names.  It would be expected to yield none whenever no method is known among the
names, and that is so exactly if there are no names or a known one.  The route of an entry whose
names are all unknown adds nothing to the outline, but unless it is left out or has a closure, its
controller is read, and an assembly fails with the error of that reading. -/
theorem entry_yields_route_unless_methods_missing (options : Options) (entry : RouteEntry) :
    (entry.route? options = none ↔ entry.methods = []) ∧
    (∀ route, entry.route? options = some route →
      ∀ method, method ∈ route.methods.toList ↔ entry.Names method) ∧
    ((entry.route? options = none ↔ ∀ method, ¬ entry.Names method) ↔
      (entry.methods = [] ∨ ∃ method, entry.Names method)) ∧
    ∀ route, entry.route? options = some route → (∀ method, ¬ entry.Names method) →
      (∀ outline notes, Outline.addRoute options outline route notes = outline) ∧
      ∀ (ε : Type) (answer : String → Except ε String) (catalog : Catalog)
        (before after : List Route),
        (assemble (steadily answer) catalog options (before ++ route :: after) ()).1 = (do
          let _ ← (assemble (steadily answer) catalog options before ()).1
          readingOf answer (controllerOf? options route)
          (assemble (steadily answer) catalog options (before ++ after) ()).1) := by
  refine ⟨RouteEntry.route?_eq_none_iff, ?_, ?_, ?_⟩
  · exact fun route yields method => RouteEntry.mem_methods_of_route? yields
  · rw [RouteEntry.route?_eq_none_iff]
    have named : ∀ method, entry.Names method → entry.methods ≠ [] := by
      rintro method ⟨text, member, _⟩
      exact List.ne_nil_of_mem member
    constructor
    · intro expected
      by_cases unknown : ∀ method, ¬ entry.Names method
      · exact Or.inl (expected.mpr unknown)
      · exact Or.inr (not_forall_not.mp unknown)
    · rintro (missing | ⟨method, known⟩)
      · exact iff_of_true missing fun method known => named method known missing
      · exact iff_of_false (named method known) fun unknown => unknown method known
  · intro route yields unknown
    have idle := RouteEntry.methods_eq_nil_of_route? yields unknown
    exact ⟨Outline.addRoute_of_methods_eq_nil idle options,
      fun ε answer catalog => assemble_of_methods_eq_nil answer catalog options idle⟩

namespace RouteEntry

/-- An entry with a method that is not known. -/
def tea : RouteEntry :=
  ⟨"/tea", ["BREW"], [], .dotted "#controllers/tea_controller.index"⟩

/-- No method of the entry is known, but it yields a route, and the controller of the route fails
an assembly that succeeds without it. -/
theorem tea_reads_controller :
    (∀ method, ¬ tea.Names method) ∧ (tea.route? .default).isSome = true ∧
      (assemble (steadily fun controller => .error controller) .initial .default
        (routes .default [tea]) ()).1.toOption.isNone = true ∧
      (assemble (steadily fun controller => .error controller) .initial .default
        (routes .default []) ()).1.toOption.isSome = true := by
  refine ⟨?_, rfl, ?_, rfl⟩
  · rintro method ⟨text, member, known⟩
    rw [List.mem_singleton.mp member] at known
    revert known
    cases method <;> decide +kernel
  · decide +kernel

end RouteEntry
end Routebook
