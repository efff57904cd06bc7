import Routebook.Document
import Routebook.Proofs.Notes.Session

namespace Routebook

/-!
# Readings of an assembly

An assembly reads controllers while it goes through the routes: ignored routes and closures
need none, and a controller that was read before is in the cache.  What remains is stated
without routes and without a cache: the controllers that some documented route names, each
once and in the order of their first appearance, are read in turn up to the first one that
cannot be read.

`Assembly.step_cases` says what one route reads, and `Assembly.run_inTurn` proves the rest for
every state of an assembly, with the controllers in the cache taken out.  That a route is
ignored or handled by a closure then means that the list of controllers is the same without
it.
-/

/-- The controller that a route asks for: none if the route is left out or has a closure. -/
def controllerOf? (options : Options) (route : Route) : Option String :=
  if Outline.documents options route then
    match route.handler with
    | .controller source _ => some source
    | .closure _ => none
  else none

/-- The controllers of routes, as often as they are asked for. -/
def controllersOf (options : Options) (routes : List Route) : List String :=
  routes.filterMap (controllerOf? options)

/-- Controllers are read one after the other, up to the first one that cannot be read.  The
reader goes from one state to the next with every reading. -/
inductive ReadInTurn {ε σ : Type} (read : String → σ → Except ε String × σ) :
    List String → σ → List (Reading ε) → Except ε Unit → σ → Prop where
  | done (reader : σ) : ReadInTurn read [] reader [] (.ok ()) reader
  | failed {controller : String} {reader behind : σ} {error : ε} (rest : List String) :
      read controller reader = (.error error, behind) →
      ReadInTurn read (controller :: rest) reader [⟨controller, .error error⟩] (.error error) behind
  | next {controller text : String} {rest : List String} {reader behind last : σ}
      {readings : List (Reading ε)} {outcome : Except ε Unit} :
      read controller reader = (.ok text, behind) →
      ReadInTurn read rest behind readings outcome last →
      ReadInTurn read (controller :: rest) reader (⟨controller, .ok text⟩ :: readings) outcome last

/-- The values that are not known yet, in the order of their first appearance. -/
def unseen (known values : List String) : List String :=
  (values.filter (· ∉ known)).eraseDups

theorem unseen_cons_of_mem {known : List String} {value : String} (old : value ∈ known)
    (rest : List String) : unseen known (value :: rest) = unseen known rest := by
  rw [unseen, List.filter_cons_of_neg (by simpa using old), unseen]

theorem unseen_cons_of_not_mem {known : List String} {value : String} (new : value ∉ known)
    (rest : List String) :
    unseen known (value :: rest) = value :: unseen (known ++ [value]) rest := by
  rw [unseen, List.filter_cons_of_pos (by simpa using new), List.eraseDups_cons,
    List.filter_filter, unseen]
  congr 3
  funext other
  by_cases same : other = value
  · simp [same]
  · simp [same]

theorem unseen_nil_left (values : List String) : unseen [] values = values.eraseDups := by
  rw [unseen, List.filter_eq_self.mpr (by simp)]

variable {ε σ : Type}

namespace Assembly

variable {read : String → σ → Except ε String × σ} {catalog : Catalog} {options : Options}

/-! ## One route -/

/-- A route that asks for no controller is added or left out, and nothing is read. -/
theorem step_of_controllerOf?_eq_none (read : String → σ → Except ε String × σ)
    (catalog : Catalog) {route : Route} (idle : controllerOf? options route = none)
    (assembly : Assembly σ) :
    ∃ outline, assembly.step read catalog options route =
      (.ok (), { assembly with outline := outline }) := by
  unfold step
  unfold controllerOf? at idle
  split
  next documented =>
    rw [if_pos documented] at idle
    cases handler : route.handler with
    | closure name => exact ⟨_, rfl⟩
    | controller source action =>
      rw [handler] at idle
      cases idle
  next => exact ⟨assembly.outline, rfl⟩

/-- A route that asks for a controller looks it up. -/
theorem step_of_controllerOf?_eq_some (read : String → σ → Except ε String × σ)
    (catalog : Catalog) {route : Route} {controller : String}
    (asked : controllerOf? options route = some controller) (assembly : Assembly σ) :
    ∃ action, assembly.step read catalog options route =
      match assembly.cache.lookup read catalog options controller action assembly.reader with
      | (.error error, cache, reader) =>
        (.error error, { assembly with cache := cache, reader := reader })
      | (.ok notes, cache, reader) =>
        (.ok (), ⟨assembly.outline.addRoute options route notes, cache, reader⟩) := by
  unfold step
  unfold controllerOf? at asked
  split
  next documented =>
    rw [if_pos documented] at asked
    cases handler : route.handler with
    | closure name =>
      rw [handler] at asked
      cases asked
    | controller source action =>
      rw [handler] at asked
      obtain rfl : source = controller := Option.some.inj asked
      refine ⟨action, ?_⟩
      dsimp only
      rcases assembly.cache.lookup read catalog options source action assembly.reader with
        ⟨error | notes, cache, reader⟩
      · rfl
      · rfl
  next ignored =>
    rw [if_neg ignored] at asked
    cases asked

/-- One route makes at most one reading: none if it asks for no controller or for one that the
cache holds, and else the reading that fails the assembly or fills the cache. -/
theorem step_cases (read : String → σ → Except ε String × σ) (catalog : Catalog)
    (options : Options) (route : Route) (assembly : Assembly (σ × List (Reading ε))) :
    ((∀ controller, controllerOf? options route = some controller →
          controller ∈ assembly.cache.keys) ∧
        ∃ outline, assembly.step (recording read) catalog options route =
          (.ok (), { assembly with outline := outline })) ∨
      ∃ controller, controllerOf? options route = some controller ∧
        controller ∉ assembly.cache.keys ∧
        ((∃ error behind, read controller assembly.reader.1 = (.error error, behind) ∧
            assembly.step (recording read) catalog options route =
              (.error error, ⟨assembly.outline, assembly.cache, behind,
                assembly.reader.2 ++ [⟨controller, .error error⟩]⟩)) ∨
          ∃ text behind outline cache, read controller assembly.reader.1 = (.ok text, behind) ∧
            cache.keys = assembly.cache.keys ++ [controller] ∧
            assembly.step (recording read) catalog options route =
              (.ok (), ⟨outline, cache, behind,
                assembly.reader.2 ++ [⟨controller, .ok text⟩]⟩)) := by
  obtain ⟨outline, cache, reader, noted⟩ := assembly
  cases asked : controllerOf? options route with
  | none =>
    exact Or.inl ⟨fun _ absurd => (nomatch absurd), step_of_controllerOf?_eq_none _ _ asked _⟩
  | some controller =>
    obtain ⟨action, stepped⟩ := step_of_controllerOf?_eq_some (recording read) catalog
      asked ⟨outline, cache, reader, noted⟩
    rw [stepped]
    by_cases old : controller ∈ cache.keys
    · obtain ⟨known, found⟩ := Option.isSome_iff_exists.mp (Keyed.isSome_get?_iff.mpr old)
      refine Or.inl ⟨?_, ?_⟩
      · intro other same
        rwa [← Option.some.inj same]
      · rw [NotesCache.lookup_of_known found]
        exact ⟨_, rfl⟩
    · refine Or.inr ⟨controller, rfl, old, ?_⟩
      have fresh : cache.get? controller = none :=
        Option.not_isSome_iff_eq_none.mp (mt Keyed.isSome_get?_iff.mp old)
      rcases answered : read controller reader with ⟨error | text, behind⟩
      · rw [NotesCache.lookup_of_error fresh (recording_of_eq answered noted)]
        exact Or.inl ⟨error, behind, rfl, rfl⟩
      · rw [NotesCache.lookup_of_ok fresh (recording_of_eq answered noted)]
        refine Or.inr ⟨text, behind, _, _, rfl, ?_, rfl⟩
        exact (Keyed.keys_insert cache controller _).trans (if_neg old)

/-! ## All routes -/

theorem unseen_controllersOf_cons_of_known {known : List String} {route : Route}
    (old : ∀ controller, controllerOf? options route = some controller → controller ∈ known)
    (rest : List Route) : unseen known (controllersOf options (route :: rest)) =
      unseen known (controllersOf options rest) := by
  cases asked : controllerOf? options route with
  | none => rw [controllersOf, List.filterMap_cons_none asked, controllersOf]
  | some controller =>
    rw [controllersOf, List.filterMap_cons_some asked, unseen_cons_of_mem (old _ asked),
      controllersOf]

theorem unseen_controllersOf_cons_of_new {known : List String} {route : Route}
    {controller : String} (asked : controllerOf? options route = some controller)
    (new : controller ∉ known) (rest : List Route) :
    unseen known (controllersOf options (route :: rest)) =
      controller :: unseen (known ++ [controller]) (controllersOf options rest) := by
  rw [controllersOf, List.filterMap_cons_some asked, unseen_cons_of_not_mem new, controllersOf]

/-- An assembly reads in turn the controllers of its routes that the cache does not hold. -/
theorem run_inTurn (read : String → σ → Except ε String × σ) (catalog : Catalog)
    (options : Options) (routes : List Route) (assembly : Assembly (σ × List (Reading ε))) :
    ∃ readings outcome behind outline cache,
      ReadInTurn read (unseen assembly.cache.keys (controllersOf options routes))
        assembly.reader.1 readings outcome behind ∧
      assembly.run (recording read) catalog options routes =
        (outcome, ⟨outline, cache, behind, assembly.reader.2 ++ readings⟩) := by
  induction routes generalizing assembly with
  | nil =>
    refine ⟨[], .ok (), assembly.reader.1, assembly.outline, assembly.cache, .done _, ?_⟩
    rw [run, List.append_nil]
  | cons route rest inductionHypothesis =>
    rw [run]
    rcases step_cases read catalog options route assembly with
      ⟨old, outline, stepped⟩ | ⟨controller, asked, new, reading⟩
    · rw [stepped, unseen_controllersOf_cons_of_known old]
      exact inductionHypothesis { assembly with outline := outline }
    · rw [unseen_controllersOf_cons_of_new asked new]
      rcases reading with ⟨error, behind, failed, stepped⟩ |
        ⟨text, behind, outline, cache, succeeded, grown, stepped⟩
      · rw [stepped]
        exact ⟨_, _, behind, _, _, .failed _ failed, rfl⟩
      · obtain ⟨readings, outcome, last, final, filled, inTurn, ran⟩ := inductionHypothesis
          ⟨outline, cache, behind, assembly.reader.2 ++ [⟨controller, .ok text⟩]⟩
        rw [grown] at inTurn
        refine ⟨_, outcome, last, final, filled, .next succeeded inTurn, ?_⟩
        dsimp only at ran
        rw [List.append_assoc] at ran
        rw [stepped]
        exact ran

/-- The same assembly with a reader that notes nothing. -/
def forget (assembly : Assembly (σ × List (Reading ε))) : Assembly σ :=
  ⟨assembly.outline, assembly.cache, assembly.reader.1⟩

theorem step_recording (route : Route) (assembly : Assembly (σ × List (Reading ε))) :
    assembly.forget.step read catalog options route =
      ((assembly.step (recording read) catalog options route).1,
        (assembly.step (recording read) catalog options route).2.forget) := by
  obtain ⟨outline, cache, reader, noted⟩ := assembly
  dsimp only [step, forget]
  split
  · cases route.handler with
    | closure name => rfl
    | controller source action =>
      dsimp only
      rw [NotesCache.lookup_recording read catalog options cache source action reader noted]
      rcases cache.lookup (recording read) catalog options source action (reader, noted) with
        ⟨error | notes, grown, behind⟩
      · rfl
      · rfl
  · rfl

/-- Noting the readings changes neither the outcome of an assembly nor its document. -/
theorem run_recording (read : String → σ → Except ε String × σ) (catalog : Catalog)
    (options : Options) (routes : List Route) (assembly : Assembly (σ × List (Reading ε))) :
    assembly.forget.run read catalog options routes =
      ((assembly.run (recording read) catalog options routes).1,
        (assembly.run (recording read) catalog options routes).2.forget) := by
  induction routes generalizing assembly with
  | nil => rfl
  | cons route rest inductionHypothesis =>
    rw [run, run, step_recording]
    rcases assembly.step (recording read) catalog options route with ⟨error | _, next⟩
    · rfl
    · exact inductionHypothesis next

/-- Routes that are left out of the document do nothing. -/
theorem run_filter_documents (routes : List Route) (assembly : Assembly σ) :
    assembly.run read catalog options (routes.filter (Outline.documents options)) =
      assembly.run read catalog options routes := by
  induction routes generalizing assembly with
  | nil => rfl
  | cons route rest inductionHypothesis =>
    by_cases documented : Outline.documents options route = true
    · rw [List.filter_cons_of_pos documented, run, run]
      rcases assembly.step read catalog options route with ⟨error | _, next⟩
      · rfl
      · exact inductionHypothesis next
    · have skipped : assembly.step read catalog options route = (.ok (), assembly) := by
        rw [step, if_neg documented]
      rw [List.filter_cons_of_neg documented, inductionHypothesis, run, skipped]

end Assembly

/-! ## Documents -/

/-- The readings and their outcome are determined by the reader and by what is to be read. -/
theorem ReadInTurn.unique {read : String → σ → Except ε String × σ} {controllers : List String}
    {reader behind behind' : σ} {readings readings' : List (Reading ε)}
    {outcome outcome' : Except ε Unit}
    (first : ReadInTurn read controllers reader readings outcome behind)
    (second : ReadInTurn read controllers reader readings' outcome' behind') :
    outcome = outcome' ∧ behind = behind' ∧ readings = readings' := by
  induction first generalizing readings' outcome' behind' with
  | done reader =>
    cases second
    exact ⟨rfl, rfl, rfl⟩
  | failed rest failed =>
    cases second with
    | failed _ again =>
      obtain ⟨same, rfl⟩ := Prod.mk.inj (failed.symm.trans again)
      cases same
      exact ⟨rfl, rfl, rfl⟩
    | next succeeded _ => cases failed.symm.trans succeeded
  | next succeeded _ inductionHypothesis =>
    cases second with
    | failed _ failed => cases succeeded.symm.trans failed
    | next again others =>
      obtain ⟨same, rfl⟩ := Prod.mk.inj (succeeded.symm.trans again)
      cases same
      obtain ⟨rfl, rfl, rfl⟩ := inductionHypothesis others
      exact ⟨rfl, rfl, rfl⟩

/-- An assembly reads the controllers of its routes in turn and fails with the error of the
last reading, if that failed. -/
theorem assemble_inTurn (read : String → σ → Except ε String × σ) (catalog : Catalog)
    (options : Options) (routes : List Route) (reader : σ) :
    ∃ readings outcome behind document,
      ReadInTurn read (controllersOf options routes).eraseDups reader readings outcome behind ∧
      assemble (recording read) catalog options routes (reader, []) =
        (outcome.map fun _ => document, behind, readings) ∧
      assemble read catalog options routes reader =
        (outcome.map fun _ => document, behind) := by
  obtain ⟨readings, outcome, behind, outline, cache, inTurn, ran⟩ :=
    Assembly.run_inTurn read catalog options routes (Assembly.start (reader, []))
  have plain := Assembly.run_recording read catalog options routes
    (Assembly.start (reader, []))
  rw [ran] at plain
  refine ⟨readings, outcome, behind, .of options catalog outline, ?_, ?_, ?_⟩
  · rw [← unseen_nil_left]
    exact inTurn
  · rw [assemble, ran]
    cases outcome <;> rfl
  · have started : (Assembly.start (reader, []) : Assembly (σ × List (Reading ε))).forget =
        Assembly.start reader := rfl
    rw [started] at plain
    rw [assemble, plain]
    cases outcome <;> rfl

/-- A route that asks for no controller changes neither the readings nor the error. -/
theorem assemble_without (read : String → σ → Except ε String × σ) (catalog : Catalog)
    (options : Options) {before after : List Route} {route : Route}
    (idle : controllerOf? options route = none) (reader : σ) :
    (assemble (recording read) catalog options (before ++ after) (reader, [])).2 =
        (assemble (recording read) catalog options (before ++ route :: after) (reader, [])).2 ∧
      ∀ error, (assemble read catalog options (before ++ after) reader).1 = .error error ↔
        (assemble read catalog options (before ++ route :: after) reader).1 = .error error := by
  have same : controllersOf options (before ++ route :: after) =
      controllersOf options (before ++ after) := by
    rw [controllersOf, controllersOf, List.filterMap_append, List.filterMap_append,
      List.filterMap_cons_none idle]
  obtain ⟨readings, outcome, behind, document, inTurn, noted, plain⟩ :=
    assemble_inTurn read catalog options (before ++ after) reader
  obtain ⟨readings', outcome', behind', document', inTurn', noted', plain'⟩ :=
    assemble_inTurn read catalog options (before ++ route :: after) reader
  rw [same] at inTurn'
  obtain ⟨rfl, rfl, rfl⟩ := inTurn.unique inTurn'
  rw [noted, noted', plain, plain']
  refine ⟨rfl, ?_⟩
  intro error
  cases outcome with
  | error other => exact Iff.rfl
  | ok _ => exact ⟨fun failed => (nomatch failed), fun failed => (nomatch failed)⟩

/-- An assembly reads the distinct controllers of the routes that are documented and handled
by one, each once and in the order of their first appearance, up to the first one that cannot
be read; it ends with that error or else with a document.  It is the same without the routes
that are left out, and a route that is left out or has a closure brings in no reading and no
error. -/
theorem assembly_reads_controllers_in_turn (read : String → σ → Except ε String × σ)
    (catalog : Catalog) (options : Options) (routes : List Route) (reader : σ) :
    (∃ readings outcome behind document,
      ReadInTurn read (controllersOf options routes).eraseDups reader readings outcome behind ∧
      assemble (recording read) catalog options routes (reader, []) =
        (outcome.map fun _ => document, behind, readings) ∧
      assemble read catalog options routes reader =
        (outcome.map fun _ => document, behind)) ∧
    assemble (recording read) catalog options (routes.filter (Outline.documents options))
        (reader, []) =
      assemble (recording read) catalog options routes (reader, []) ∧
    ∀ before route after, routes = before ++ route :: after →
      (Outline.documents options route = false ∨ ∃ name, route.handler = .closure name) →
        (assemble (recording read) catalog options (before ++ after) (reader, [])).2 =
            (assemble (recording read) catalog options routes (reader, [])).2 ∧
          ∀ error, (assemble read catalog options (before ++ after) reader).1 = .error error ↔
            (assemble read catalog options routes reader).1 = .error error := by
  refine ⟨assemble_inTurn read catalog options routes reader, ?_, ?_⟩
  · rw [assemble, Assembly.run_filter_documents, ← assemble]
  · rintro before route after rfl skipped
    have idle : controllerOf? options route = none := by
      rw [controllerOf?]
      rcases skipped with ignored | ⟨name, closure⟩
      · rw [ignored, if_neg Bool.false_ne_true]
      · rw [closure, ite_self]
    exact assemble_without read catalog options idle reader

end Routebook
