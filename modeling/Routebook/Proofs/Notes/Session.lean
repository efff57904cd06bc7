import Routebook.Notes.Cache
import Routebook.Proofs.Entries

namespace Routebook

/-!
# Sessions with a cache of annotations

The cache answers requests for the annotations of actions and reads a controller when it is
asked about it for the first time.  A session is any sequence of requests to a cache that was
empty at the start.  Each request is written down with the readings it made and the answer it
got, and the readings are those of a reader that notes what it does, so that no reading is
left out and none is made up.

The cache is compared with an account that has no cache: what a controller says about an
action is read off the text of the first reading that succeeded.  `Session.Faithful` ties the
two together.  It holds at the start and is kept by every request, whatever the reader of
controllers answers and whether it answers the same twice.
-/

/-! ## Readings -/

/-- One reading of a controller. -/
structure Reading (ε : Type) where
  controller : String
  outcome : Except ε String

/-- The text of a reading, if it is of the controller and succeeded. -/
def Reading.text? {ε : Type} (controller : String) (reading : Reading ε) : Option String :=
  if reading.controller = controller then reading.outcome.toOption else none

/-- The reader of controllers that notes each reading behind the earlier ones. -/
def recording {ε σ : Type} (read : String → σ → Except ε String × σ) (controller : String)
    (state : σ × List (Reading ε)) : Except ε String × σ × List (Reading ε) :=
  ((read controller state.1).1, (read controller state.1).2,
    state.2 ++ [⟨controller, (read controller state.1).1⟩])

/-! ## One look-up -/

namespace NotesCache

variable {ε σ : Type} {read : String → σ → Except ε String × σ} {catalog : Catalog}
  {options : Options} {cache : NotesCache} {controller action : String} {state behind : σ}

theorem lookup_of_known {known : Keyed Notes} (found : cache.get? controller = some known) :
    cache.lookup read catalog options controller action state =
      (.ok (known.get? action), cache, state) := by
  rw [lookup, found]

theorem lookup_of_error {error : ε} (unknown : cache.get? controller = none)
    (failed : read controller state = (.error error, behind)) :
    cache.lookup read catalog options controller action state = (.error error, cache, behind) := by
  rw [lookup, unknown]
  dsimp only
  rw [failed]

theorem lookup_of_ok {text : String} (unknown : cache.get? controller = none)
    (succeeded : read controller state = (.ok text, behind)) :
    cache.lookup read catalog options controller action state =
      (.ok ((notesOf catalog options text).get? action),
        cache.insert controller (notesOf catalog options text), behind) := by
  rw [lookup, unknown]
  dsimp only
  rw [succeeded]

end NotesCache

theorem recording_of_eq {ε σ : Type} {read : String → σ → Except ε String × σ}
    {controller : String} {state behind : σ} {outcome : Except ε String}
    (answered : read controller state = (outcome, behind)) (readings : List (Reading ε)) :
    recording read controller (state, readings) =
      (outcome, behind, readings ++ [⟨controller, outcome⟩]) := by
  rw [recording, answered]

/-- Noting the readings changes no answer, no cache and no reader. -/
theorem NotesCache.lookup_recording {ε σ : Type} (read : String → σ → Except ε String × σ)
    (catalog : Catalog) (options : Options) (cache : NotesCache) (controller action : String)
    (reader : σ) (readings : List (Reading ε)) :
    let noted := cache.lookup (recording read) catalog options controller action (reader, readings)
    cache.lookup read catalog options controller action reader =
      (noted.1, noted.2.1, noted.2.2.1) := by
  dsimp only
  cases found : cache.get? controller with
  | some known => rw [lookup_of_known found, lookup_of_known found]
  | none =>
    rcases answered : read controller reader with ⟨error | text, behind⟩
    · rw [lookup_of_error found answered,
        lookup_of_error found (recording_of_eq answered readings)]
    · rw [lookup_of_ok found answered, lookup_of_ok found (recording_of_eq answered readings)]

/-! ## Annotations without a cache -/

/-- What a text says about an action: the annotation of the first block that names it. -/
def annotationIn? (catalog : Catalog) (options : Options) (text action : String) : Option Notes :=
  ((commentBlocks text.toList).find? (·.action == action)).map fun block =>
    .ofLines catalog options block.action block.lines

/-- The first block of an action counts, whether it was read before or is among the blocks
that are still to be read. -/
theorem get?_foldl_blocks (catalog : Catalog) (options : Options) (action : String)
    (blocks : List CommentBlock) (known : Keyed Notes) :
    (blocks.foldl (fun known block =>
        if known.contains block.action then known
        else known.insert block.action (.ofLines catalog options block.action block.lines))
      known).get? action =
      (known.get? action).or ((blocks.find? (·.action == action)).map fun block =>
        .ofLines catalog options block.action block.lines) := by
  induction blocks generalizing known with
  | nil => simp
  | cons first rest inductionHypothesis =>
    rw [List.foldl_cons, inductionHypothesis, List.find?_cons]
    by_cases same : first.action = action
    · subst same
      rw [beq_self_eq_true]
      by_cases repeated : known.contains first.action = true
      · obtain ⟨notes, found⟩ := Option.isSome_iff_exists.mp repeated
        rw [if_pos repeated, found]
        rfl
      · have fresh : known.get? first.action = none :=
          Option.not_isSome_iff_eq_none.mp repeated
        rw [if_neg repeated, Keyed.get?_insert, if_pos rfl, fresh]
        rfl
    · rw [beq_eq_false_iff_ne.mpr same]
      split
      · rfl
      · rw [Keyed.get?_insert, if_neg (Ne.symm same)]

theorem get?_notesOf (catalog : Catalog) (options : Options) (text action : String) :
    (notesOf catalog options text).get? action = annotationIn? catalog options text action :=
  get?_foldl_blocks catalog options action (commentBlocks text.toList) .empty

/-! ## Requests -/

/-- A request that was answered: the readings it made and the answer it got. -/
structure Call (ε : Type) where
  controller : String
  action : String
  readings : List (Reading ε)
  answer : Except ε (Option Notes)

/-- A sequence of answered requests, with the cache and the reader behind them. -/
structure Session (ε σ : Type) where
  calls : List (Call ε)
  cache : NotesCache
  reader : σ

namespace Session

variable {ε σ : Type}

/-- Before the first request. -/
def start (reader : σ) : Session ε σ :=
  ⟨[], .empty, reader⟩

/-- Everything that was read so far, in order. -/
def readings (session : Session ε σ) : List (Reading ε) :=
  session.calls.flatMap (·.readings)

/-- The text of the first successful reading of a controller. -/
def firstText? (session : Session ε σ) (controller : String) : Option String :=
  session.readings.findSome? (Reading.text? controller)

/-- The controllers that were read successfully, as often as they were. -/
def readControllers (session : Session ε σ) : List String :=
  session.readings.filterMap fun reading => reading.outcome.toOption.map fun _ => reading.controller

variable (read : String → σ → Except ε String × σ) (catalog : Catalog) (options : Options)

/-- Answer one more request. -/
def ask (session : Session ε σ) (request : String × String) : Session ε σ :=
  let (answer, cache, reader, readings) := session.cache.lookup (recording read) catalog options
    request.1 request.2 (session.reader, [])
  ⟨session.calls ++ [⟨request.1, request.2, readings, answer⟩], cache, reader⟩

/-- Answer requests, each for an action of a controller, one after the other. -/
def run (reader : σ) (requests : List (String × String)) : Session ε σ :=
  requests.foldl (ask read catalog options) (start reader)

/-! ## What one request does -/

/-- The cache holds, for every controller, the annotations in its first text, and it holds
the controllers in the order of their readings.  A request reads no other controller than its
own. -/
structure Faithful (session : Session ε σ) : Prop where
  known : ∀ controller, session.cache.get? controller =
    (session.firstText? controller).map (notesOf catalog options)
  order : session.cache.keys = session.readControllers.eraseDups
  own : ∀ call ∈ session.calls, ∀ reading ∈ call.readings, reading.controller = call.controller

variable {read catalog options} {session : Session ε σ} {controller action : String}

theorem readings_concat (call : Call ε) (cache : NotesCache) (reader : σ) :
    readings ⟨session.calls ++ [call], cache, reader⟩ = session.readings ++ call.readings := by
  simp [readings]

/-- The readings of one more request count only where no earlier one gave a text. -/
theorem firstText?_concat (call : Call ε) (cache : NotesCache) (reader : σ) (other : String) :
    firstText? ⟨session.calls ++ [call], cache, reader⟩ other =
      (session.firstText? other).or (call.readings.findSome? (Reading.text? other)) := by
  rw [firstText?, readings_concat, List.findSome?_append, firstText?]

theorem readControllers_concat (call : Call ε) (cache : NotesCache) (reader : σ) :
    readControllers ⟨session.calls ++ [call], cache, reader⟩ =
      session.readControllers ++ call.readings.filterMap fun reading =>
        reading.outcome.toOption.map fun _ => reading.controller := by
  rw [readControllers, readings_concat, List.filterMap_append, readControllers]

/-- A controller that the cache holds is not read. -/
theorem ask_of_known {known : Keyed Notes} (found : session.cache.get? controller = some known) :
    session.ask read catalog options (controller, action) =
      ⟨session.calls ++ [⟨controller, action, [], .ok (known.get? action)⟩], session.cache,
        session.reader⟩ := by
  rw [ask, NotesCache.lookup_of_known found]

/-- A controller that cannot be read changes nothing but the reader. -/
theorem ask_of_error {error : ε} {behind : σ} (unknown : session.cache.get? controller = none)
    (failed : read controller session.reader = (.error error, behind)) :
    session.ask read catalog options (controller, action) =
      ⟨session.calls ++ [⟨controller, action, [⟨controller, .error error⟩], .error error⟩],
        session.cache, behind⟩ := by
  rw [ask, NotesCache.lookup_of_error unknown (recording_of_eq failed [])]
  rfl

/-- A controller that is read is in the cache from then on, with all its annotations. -/
theorem ask_of_ok {text : String} {behind : σ} (unknown : session.cache.get? controller = none)
    (succeeded : read controller session.reader = (.ok text, behind)) :
    session.ask read catalog options (controller, action) =
      ⟨session.calls ++ [⟨controller, action, [⟨controller, .ok text⟩],
          .ok ((notesOf catalog options text).get? action)⟩],
        session.cache.insert controller (notesOf catalog options text), behind⟩ := by
  rw [ask, NotesCache.lookup_of_ok unknown (recording_of_eq succeeded [])]
  rfl

theorem faithful_start (reader : σ) : (start reader : Session ε σ).Faithful catalog options where
  known _ := rfl
  order := rfl
  own call member := by cases member

/-- Every request keeps the cache faithful. -/
theorem Faithful.ask (faithful : session.Faithful catalog options)
    (read : String → σ → Except ε String × σ) (request : String × String) :
    (session.ask read catalog options request).Faithful catalog options := by
  obtain ⟨controller, action⟩ := request
  have own : ∀ (readings : List (Reading ε)) (answer : Except ε (Option Notes)),
      (∀ reading ∈ readings, reading.controller = controller) →
      ∀ call ∈ session.calls ++ [⟨controller, action, readings, answer⟩],
        ∀ reading ∈ call.readings, reading.controller = call.controller := by
    intro readings answer same call member
    rcases List.mem_append.mp member with earlier | last
    · exact faithful.own call earlier
    · rw [List.mem_singleton.mp last]
      exact same
  cases found : session.cache.get? controller with
  | some known =>
    rw [ask_of_known found]
    refine ⟨?_, ?_, own [] _ (by simp)⟩
    · intro other
      rw [firstText?_concat, List.findSome?_nil, Option.or_none]
      exact faithful.known other
    · rw [readControllers_concat, List.filterMap_nil, List.append_nil]
      exact faithful.order
  | none =>
    rcases answered : read controller session.reader with ⟨error | text, behind⟩
    · rw [ask_of_error found answered]
      refine ⟨?_, ?_, own _ _ (by simp)⟩
      · intro other
        have nothing : Reading.text? other (⟨controller, .error error⟩ : Reading ε) = none :=
          ite_self none
        rw [firstText?_concat, List.findSome?_singleton, nothing, Option.or_none]
        exact faithful.known other
      · rw [readControllers_concat, List.filterMap_cons_none rfl, List.filterMap_nil,
          List.append_nil]
        exact faithful.order
    · rw [ask_of_ok found answered]
      refine ⟨?_, ?_, own _ _ (by simp)⟩
      · intro other
        rw [firstText?_concat, List.findSome?_singleton, Keyed.get?_insert]
        by_cases same : other = controller
        · subst same
          have first : session.firstText? other = none := by
            simpa [faithful.known other] using found
          rw [if_pos rfl, first]
          simp [Reading.text?, Except.toOption]
        · rw [if_neg same, faithful.known other]
          simp [Reading.text?, Ne.symm same]
      · rw [readControllers_concat]
        exact Keyed.keys_insert_of_keys_eq faithful.order _ _

/-- The cache is faithful behind every sequence of requests. -/
theorem faithful_run (read : String → σ → Except ε String × σ) (catalog : Catalog)
    (options : Options) (reader : σ) (requests : List (String × String)) :
    (run read catalog options reader requests).Faithful catalog options :=
  List.foldlRecOn (motive := fun session : Session ε σ => session.Faithful catalog options)
    requests (ask read catalog options) (faithful_start reader)
    fun _ faithful request _ => faithful.ask read request

/-- A controller has a first text exactly if an earlier request for it read it. -/
theorem Faithful.firstText?_eq_none_iff (faithful : session.Faithful catalog options) :
    session.firstText? controller = none ↔
      ∀ call ∈ session.calls, call.controller = controller →
        ∀ text, ⟨controller, .ok text⟩ ∉ call.readings := by
  rw [firstText?, List.findSome?_eq_none_iff]
  constructor
  · intro unread call member _ text reading
    have absent := unread _ (List.mem_flatMap.mpr ⟨call, member, reading⟩)
    simp [Reading.text?, Except.toOption] at absent
  · intro unread reading member
    rcases List.mem_flatMap.mp member with ⟨call, earlier, made⟩
    have same := faithful.own call earlier reading made
    rw [Reading.text?]
    split
    next this =>
      cases outcome : reading.outcome with
      | error error => rfl
      | ok text =>
        have shape : reading = ⟨controller, .ok text⟩ := by rw [← this, ← outcome]
        exact absurd (shape ▸ made) (unread call earlier (same.symm.trans this) text)
    next => rfl

/-- What the cache says about an action is what the first text says. -/
theorem Faithful.get?_of_known (faithful : session.Faithful catalog options) {known : Keyed Notes}
    (found : session.cache.get? controller = some known) (action : String) :
    ∃ text, session.firstText? controller = some text ∧
      known.get? action = annotationIn? catalog options text action := by
  rw [faithful.known controller] at found
  obtain ⟨text, first, rfl⟩ := Option.map_eq_some_iff.mp found
  exact ⟨text, first, get?_notesOf catalog options text action⟩

/-! ## The refinement -/

/-- What an answered request is to the session before it and the session behind it. -/
structure Refines (read : String → σ → Except ε String × σ) (catalog : Catalog)
    (options : Options) (session next : Session ε σ) (call : Call ε) : Prop where
  /-- The controller is read exactly if no earlier request for it read it. -/
  reads_iff : call.readings ≠ [] ↔
    ∀ earlier ∈ session.calls, earlier.controller = call.controller →
      ∀ text, ⟨call.controller, .ok text⟩ ∉ earlier.readings
  /-- It is read once, and nothing else is read. -/
  reads_own : call.readings ≠ [] →
    call.readings = [⟨call.controller, (read call.controller session.reader).1⟩]
  /-- An error is the answer exactly if it came from the reading. -/
  fails_iff : ∀ error, call.answer = .error error ↔
    call.readings = [⟨call.controller, .error error⟩]
  /-- A request that fails leaves the cache as it is. -/
  keeps : ∀ error, call.answer = .error error → next.cache = session.cache
  /-- Any other answer is what the first text of the controller says about the action. -/
  told : ∀ notes, call.answer = .ok notes → ∃ text,
    next.firstText? call.controller = some text ∧
      notes = annotationIn? catalog options text call.action
  /-- The answer is the one that is given when nobody writes it down. -/
  plain : session.cache.lookup read catalog options call.controller call.action session.reader =
    (call.answer, next.cache, next.reader)

theorem Faithful.refines_of_known (faithful : session.Faithful catalog options)
    {known : Keyed Notes} (found : session.cache.get? controller = some known) :
    Refines read catalog options session (session.ask read catalog options (controller, action))
      ⟨controller, action, [], .ok (known.get? action)⟩ where
  reads_iff := by
    have first : session.firstText? controller ≠ none := by
      intro absent
      have nothing := faithful.known controller
      rw [found, absent] at nothing
      cases nothing
    rw [← faithful.firstText?_eq_none_iff]
    exact ⟨fun read => absurd rfl read, fun absent => absurd absent first⟩
  reads_own read := absurd rfl read
  fails_iff error := ⟨fun failed => (nomatch failed), fun read => (nomatch read)⟩
  keeps error failed := nomatch failed
  told notes returned := by
    have later := faithful.ask read (controller, action)
    rw [← Except.ok.inj returned]
    exact later.get?_of_known (by rw [ask_of_known found]; exact found) action
  plain := by
    rw [ask_of_known found]
    exact NotesCache.lookup_of_known found

/-- A controller that the cache does not hold was not read before. -/
theorem Faithful.unread_of_get?_eq_none (faithful : session.Faithful catalog options)
    (unknown : session.cache.get? controller = none) :
    ∀ earlier ∈ session.calls, earlier.controller = controller →
      ∀ text, ⟨controller, .ok text⟩ ∉ earlier.readings := by
  apply faithful.firstText?_eq_none_iff.mp
  rwa [faithful.known controller, Option.map_eq_none_iff] at unknown

theorem Faithful.refines_of_error (faithful : session.Faithful catalog options) {error : ε}
    {behind : σ} (unknown : session.cache.get? controller = none)
    (failed : read controller session.reader = (.error error, behind)) :
    Refines read catalog options session (session.ask read catalog options (controller, action))
      ⟨controller, action, [⟨controller, .error error⟩], .error error⟩ where
  reads_iff := ⟨fun _ => faithful.unread_of_get?_eq_none unknown, fun _ => List.cons_ne_nil _ _⟩
  reads_own _ := by rw [failed]
  fails_iff other := by simp
  keeps _ _ := by rw [ask_of_error unknown failed]
  told notes returned := nomatch returned
  plain := by
    rw [ask_of_error unknown failed]
    exact NotesCache.lookup_of_error unknown failed

theorem Faithful.refines_of_ok (faithful : session.Faithful catalog options) {text : String}
    {behind : σ} (unknown : session.cache.get? controller = none)
    (succeeded : read controller session.reader = (.ok text, behind)) :
    Refines read catalog options session (session.ask read catalog options (controller, action))
      ⟨controller, action, [⟨controller, .ok text⟩],
        .ok ((notesOf catalog options text).get? action)⟩ where
  reads_iff := ⟨fun _ => faithful.unread_of_get?_eq_none unknown, fun _ => List.cons_ne_nil _ _⟩
  reads_own _ := by rw [succeeded]
  fails_iff error := by simp
  keeps error failed := nomatch failed
  told notes returned := by
    have later := faithful.ask read (controller, action)
    have held : (session.ask read catalog options (controller, action)).cache.get? controller =
        some (notesOf catalog options text) := by
      rw [ask_of_ok unknown succeeded, Keyed.get?_insert, if_pos rfl]
    rw [← Except.ok.inj returned]
    exact later.get?_of_known held action
  plain := by
    rw [ask_of_ok unknown succeeded]
    exact NotesCache.lookup_of_ok unknown succeeded

/-- Behind any requests, the cache holds as many controllers as were read successfully, and one
more request for an action of a controller is answered as without a cache: it reads the
controller exactly if no earlier request for it read it, fails with the error of its reading
and no other, and is otherwise told what the first text that was ever read of the controller
says about the action. -/
theorem cached_requests_refine_first_readings (read : String → σ → Except ε String × σ)
    (catalog : Catalog) (options : Options) (reader : σ) (requests : List (String × String))
    (controller action : String) :
    let session := run read catalog options reader requests
    let next := session.ask read catalog options (controller, action)
    session.cache.size = session.readControllers.eraseDups.length ∧
    ∃ call, next.calls = session.calls ++ [call] ∧
      call.controller = controller ∧ call.action = action ∧
      Refines read catalog options session next call := by
  intro session next
  have faithful : session.Faithful catalog options :=
    faithful_run read catalog options reader requests
  refine ⟨?_, ?_⟩
  · rw [← faithful.order]
    exact (List.length_map _).symm
  · cases found : session.cache.get? controller with
    | some known =>
      have asked : next = _ := ask_of_known found
      exact ⟨_, by rw [asked], rfl, rfl, faithful.refines_of_known found⟩
    | none =>
      rcases answered : read controller session.reader with ⟨error | text, behind⟩
      · have asked : next = _ := ask_of_error found answered
        exact ⟨_, by rw [asked], rfl, rfl, faithful.refines_of_error found answered⟩
      · have asked : next = _ := ask_of_ok found answered
        exact ⟨_, by rw [asked], rfl, rfl, faithful.refines_of_ok found answered⟩

end Session
end Routebook
