import Routebook.Proofs.Text.Pieces
import Routebook.Route.Handler

namespace Routebook

/-!
# Shapes of one handler

A route list writes the handler of a route in many ways: as a module and an action with a point
between them, as a lazy import with or without an action, where the import is its source text, a
function or a plain name, and in the older shape as a namespace and a method.  Each shape has its
own way to the module.  What is shown here is that all ways end in the same route, for every name
of a module, with points, slashes and aliases in it.

The entries are trees as they stand in a route list, so that a shape is also told from the others
here.  A specifier is only compared up to the blanks around it, because the path of a module drops
them anyhow.
-/

/-- The name of a module.  It is not blank and does not look like code. -/
structure IsModuleName (module : String) : Prop where
  filled : Text.trim module.toList ≠ []
  plain : ∀ c ∈ module.toList, c ∉ ['"', '\x27', '(', ')']
  arrowless : ¬ ['=', '>'] <:+: module.toList

instance (module : String) : Decidable (IsModuleName module) :=
  decidable_of_iff (Text.trim module.toList ≠ [] ∧
      (module.toList.all fun c => c ∉ ['"', '\x27', '(', ')']) = true ∧
      ¬ ['=', '>'] <:+: module.toList)
    ⟨fun ⟨filled, plain, arrowless⟩ =>
        ⟨filled, fun c member => of_decide_eq_true (List.all_eq_true.mp plain c member), arrowless⟩,
      fun ⟨filled, plain, arrowless⟩ =>
        ⟨filled, List.all_eq_true.mpr fun c member => decide_eq_true (plain c member), arrowless⟩⟩

/-- The name of an action can be told from the module in front of it. -/
structure IsActionName (action : String) : Prop where
  pointless : '.' ∉ action.toList
  single : '/' ∉ action.toList

instance (action : String) : Decidable (IsActionName action) :=
  decidable_of_iff ('.' ∉ action.toList ∧ '/' ∉ action.toList)
    ⟨fun ⟨pointless, single⟩ => ⟨pointless, single⟩, fun ⟨pointless, single⟩ => ⟨pointless, single⟩⟩

/-! ## Shapes -/

def importText (module : String) : String :=
  "() => import(\x27" ++ module ++ "\x27)"

/-- The ways to write an import of a module. -/
inductive ImportShape (module : String) : Tree → Prop where
  | text : ImportShape module (.text (importText module))
  | source : ImportShape module (.fields true [("source", .text (importText module))])
  | function : ImportShape module (.fields true [("name", .text module)])
  | name : ImportShape module (.text module)

def referring (reference : Tree) : Tree :=
  .fields true [("reference", reference)]

/-- The ways to write an action of a module as a handler. -/
inductive HandlerShape (module action : String) : Tree → Prop where
  | dotted : HandlerShape module action (.text (module ++ "." ++ action))
  | reference : HandlerShape module action (referring (.text (module ++ "." ++ action)))
  | lazy {imported : Tree} (shape : ImportShape module imported) :
      HandlerShape module action (referring (.list true [imported, .text action]))

/-- An entry of the newer shape. -/
def newerEntry (pattern : String) (methods middleware : List String) (handler : Tree) : Tree :=
  .fields true [("pattern", .text pattern), ("methods", .list true (methods.map .text)),
    ("handler", handler), ("middleware", .list true (middleware.map .text))]

/-- An entry of the older shape whose handler is an action of a controller. -/
def olderEntry (pattern : String) (methods middleware : List String)
    (namespaceName method : String) : Tree :=
  .fields true [("pattern", .text pattern), ("methods", .list true (methods.map .text)),
    ("meta", .fields true [("resolvedHandler", .fields true [("type", .text "controller"),
      ("namespace", .text namespaceName), ("method", .text method)])]),
    ("middleware", .list true (middleware.map .text))]

def routeOf? (options : Options) (entry : Tree) : Option Route :=
  (RouteEntry.ofTree? entry).bind (RouteEntry.route? options)

/-! ## Reading entries -/

namespace RouteEntry

theorem text?_text (value : String) : Tree.text? (.text value) = some value := rfl

theorem optionalText?_text (value : String) :
    optionalText? (some (.text value)) = some (some value) := rfl

theorem optionalText?_none : optionalText? none = some none := rfl

theorem textsOrNone?_list (texts : List String) :
    textsOrNone? (some (.list true (texts.map .text))) = some texts := by
  have read : (texts.map Tree.text).mapM Tree.text? = some texts := by
    induction texts with
    | nil => rfl
    | cons first rest inductionHypothesis =>
      rw [List.map_cons, List.mapM_cons, text?_text, inductionHypothesis]
      rfl
  exact read

theorem map_middlewareName (names : List String) :
    (names.map Tree.text).map middlewareName = names := by
  rw [List.map_map]
  exact List.map_id names

theorem handler?_referring {reference : Tree} {handler : HandlerText}
    (read : reference? reference = some handler) :
    handler? (referring reference) = some handler := by
  simp [referring, handler?, keyedHandler?, Tree.record?, optionalText?, read]

theorem ofTree?_newerEntry (pattern : String) (methods middleware : List String) {tree : Tree}
    {handler : HandlerText} (read : handler? tree = some handler) :
    ofTree? (newerEntry pattern methods middleware tree) =
      some ⟨pattern, methods, middleware, handler⟩ := by
  have unlike : older? (newerEntry pattern methods middleware tree) = none := by
    simp [older?, newerEntry, recordOrList?, Tree.record?]
  have like : newer? (newerEntry pattern methods middleware tree) =
      some ⟨pattern, methods, middleware, handler⟩ := by
    have named := map_middlewareName middleware
    simp only [List.map_map] at named
    simp [newer?, newerEntry, recordOrList?, Tree.record?, textsOrNone?_list, Tree.list?, named,
      read, text?_text]
  -- The older shape is tried first, and asks for a record that is not there.
  rw [ofTree?, unlike, like, Option.none_or]

theorem ofTree?_olderEntry (pattern : String) (methods middleware : List String)
    (namespaceName method : String) :
    ofTree? (olderEntry pattern methods middleware namespaceName method) =
      some ⟨pattern, methods, middleware,
        .resolved "controller" (some namespaceName) (some method)⟩ := by
  have like : older? (olderEntry pattern methods middleware namespaceName method) =
      some ⟨pattern, methods, middleware,
        .resolved "controller" (some namespaceName) (some method)⟩ := by
    simp [older?, olderEntry, recordOrList?, Tree.record?, textsOrNone?_list, resolvedHandler?,
      optionalText?_text, text?_text]
  rw [ofTree?, like, Option.some_or]

end RouteEntry

/-! ## Finding the module -/

namespace ImportText

theorem quotedArgument?_quoted {target : List Char} (filled : target ≠ [])
    (plain : ∀ c ∈ target, c ∉ ['"', '\x27', '(', ')']) :
    quotedArgument? ('\x27' :: (target ++ ['\x27', ')'])) = some target := by
  have start : Text.trimStart ('\x27' :: (target ++ ['\x27', ')'])) =
      '\x27' :: (target ++ ['\x27', ')']) := by
    rw [Text.trimStart, Text.trimStartWhere, List.dropWhile_cons_of_neg (by decide)]
  have inner : ∀ c ∈ target, (!(c == '"' || c == '\x27')) = true := by
    intro c member
    have apart := plain c member
    simp only [List.mem_cons, not_or] at apart
    simp [apart.1, apart.2.1]
  have ends : ∀ c, ['\x27', ')'].head? = some c → (!(c == '"' || c == '\x27')) = false := by
    rintro c ⟨⟩
    decide
  have cut := Text.span_append inner ends
  rw [quotedArgument?, start]
  dsimp only
  rw [cut.1, cut.2]
  simp [filled, Text.trimStart, Text.trimStartWhere]
  decide

/-- An import expression begins with its first letter. -/
theorem target?_append {front : List Char} (free : 'i' ∉ front) (rest : List Char) :
    target? (front ++ rest) = target? rest := by
  induction front with
  | nil => rfl
  | cons c front inductionHypothesis =>
    rw [List.mem_cons, not_or] at free
    have apart : Text.stripStart? "import(".toList (c :: (front ++ rest)) = none := by
      have shape : "import(".toList = 'i' :: "mport(".toList := rfl
      rw [shape, Text.stripStart?, if_neg free.1]
    rw [List.cons_append, target?, apart]
    exact inductionHypothesis free.2

theorem target?_importText {module : String} (is : IsModuleName module) :
    target? (importText module).toList = some module.toList := by
  have filled : module.toList ≠ [] := by
    intro empty
    exact is.filled (by rw [empty]; rfl)
  have shape : (importText module).toList = ['(', ')', ' ', '=', '>', ' '] ++
      ("import(".toList ++ '\x27' :: (module.toList ++ ['\x27', ')'])) := by
    rw [importText, String.toList_append, String.toList_append, List.append_assoc]
    rfl
  have stripped : Text.stripStart? "import(".toList
      ("import(".toList ++ '\x27' :: (module.toList ++ ['\x27', ')'])) =
        some ('\x27' :: (module.toList ++ ['\x27', ')'])) :=
    Text.stripStart?_eq_some_iff.mpr rfl
  have begins : ∀ rest, "import(".toList ++ rest = 'i' :: ("mport(".toList ++ rest) := fun _ => rfl
  rw [shape, target?_append (by decide)]
  rw [begins] at stripped ⊢
  rw [target?, stripped, Option.bind_some, quotedArgument?_quoted filled is.plain]

theorem target?_of_free {text : List Char} (free : '(' ∉ text) : target? text = none := by
  induction text with
  | nil => rfl
  | cons c rest inductionHypothesis =>
    have apart : Text.stripStart? "import(".toList (c :: rest) = none :=
      Text.stripStart?_eq_none_of_not_mem (c := '(') (by decide) free
    rw [target?, apart]
    exact inductionHypothesis fun member => free (List.mem_cons_of_mem c member)

theorem specifier?_name {module : String} (is : IsModuleName module) :
    (source module).specifier? = some (Text.trim module.toList) := by
  have free : '(' ∉ module.toList := fun member => is.plain _ member (by decide)
  have plain : looksLikeCode module.toList = false := by
    rw [looksLikeCode, Bool.or_eq_false_iff]
    refine ⟨Bool.eq_false_iff.mpr fun held => is.arrowless (Text.contains_iff.mp held), ?_⟩
    simpa using free
  rw [specifier?, target?_of_free free, plain]
  simp [is.filled]

end ImportText

/-- Every import of a module is read, and finds the module up to blanks around it. -/
theorem ImportShape.exists_specifier {module : String} (is : IsModuleName module) {tree : Tree}
    (shape : ImportShape module tree) :
    ∃ imported specifier, RouteEntry.import? tree = some imported ∧
      imported.specifier? = some specifier ∧ Text.trim specifier = Text.trim module.toList := by
  have target := ImportText.target?_importText is
  cases shape with
  | text =>
    refine ⟨.source (importText module), module.toList, rfl, ?_, rfl⟩
    rw [ImportText.specifier?, target, Option.some_or]
  | source =>
    refine ⟨.function none (some (importText module)), module.toList, ?_, ?_, rfl⟩
    · simp [RouteEntry.import?, Tree.record?, RouteEntry.optionalText?_text,
        RouteEntry.optionalText?_none]
    · rw [ImportText.specifier?, Option.bind_some, target, Option.some_or]
  | function =>
    refine ⟨.function (some module) none, module.toList, ?_, ?_, rfl⟩
    · simp [RouteEntry.import?, Tree.record?, RouteEntry.optionalText?_text,
        RouteEntry.optionalText?_none]
    · have filled : module ≠ "" := by
        rintro rfl
        exact is.filled rfl
      simp [ImportText.specifier?, RouteEntry.nonEmpty, Option.filter, filled]
  | name =>
    exact ⟨.source module, _, rfl, ImportText.specifier?_name is, Text.trimWhere_trimWhere _ _⟩

theorem trim_append_of_trim {front text : List Char}
    (head : ∀ c, front.head? = some c → Text.isBlank c = false)
    (last : ∀ c, front.getLast? = some c → Text.isBlank c = false)
    (trimmed : Text.trim text = text) : Text.trim (front ++ text) = front ++ text := by
  have text := Text.not_of_trimWhere_eq_self trimmed
  refine Text.trim_eq_self (fun c begins => ?_) (fun c ends => ?_)
  · rw [List.head?_append, Option.or_eq_some_iff] at begins
    exact begins.elim (head c) fun behind => text.1 c behind.2
  · rw [List.getLast?_append, Option.or_eq_some_iff] at ends
    exact ends.elim (text.2 c) fun before => last c before.2

namespace Options

variable (options : Options)

theorem controllerPath_congr {first second : List Char}
    (same : Text.trim first = Text.trim second) :
    options.controllerPath first = options.controllerPath second := by
  have module : options.modulePath first = options.modulePath second := by
    rw [modulePath, modulePath, same]
  rw [controllerPath, controllerPath, module]

/-- A path that begins with no alias and in no current directory is taken as it is. -/
theorem controllerPath_of_unaliased {path : List Char} (trimmed : Text.trim path = path)
    (unaliased : ∀ head ∈ options.importAliases.keys, ¬ head.toList <+: path)
    (anchored : path.head? ≠ some '.') (nested : '/' ∈ path) :
    options.controllerPath path = path := by
  have replaced : options.importAliases.entries.findSome? (fun entry =>
      (Text.stripStart? entry.1.toList path).map (directory entry.2 ++ ·)) = none := by
    rw [List.findSome?_eq_none_iff]
    intro entry member
    rw [Option.map_eq_none_iff, Text.stripStart?_eq_none_iff]
    exact unaliased entry.1 (List.mem_map_of_mem member)
  have kept : Text.stripStart? ['.', '/'] path = none := by
    rw [Text.stripStart?_eq_none_iff]
    rintro ⟨rest, rfl⟩
    exact anchored rfl
  have module : options.modulePath path = path := by
    rw [modulePath, trimmed, replaced, Option.getD_none,
      Text.dropRepeated_of_stripStart?_eq_none kept]
  rw [controllerPath, module]
  simp [nested]

end Options

namespace HandlerText

variable (options : Options)

/-- The last point stands in front of the action. -/
theorem handler_dotted (module : String) {action : String} (is : IsActionName action) :
    handler options (.dotted (module ++ "." ++ action)) =
      .controller (String.ofList (options.controllerPath module.toList)) action := by
  have cut : Text.cutLastAt? '.' (module ++ "." ++ action).toList =
      some (module.toList, action.toList) := by
    have shape : (module ++ "." ++ action).toList = module.toList ++ '.' :: action.toList := by
      simp
    rw [shape, Text.cutLastAt?_append_cons is.pointless]
  rw [handler, dottedHandler, cut]
  simp [is.single]

theorem handler_lazy {module : String} (action : String) {imported : ImportText}
    {specifier : List Char} (found : imported.specifier? = some specifier)
    (same : Text.trim specifier = Text.trim module.toList) :
    handler options (.lazy imported action) =
      .controller (String.ofList (options.controllerPath module.toList)) action := by
  rw [handler, found]
  dsimp only
  rw [options.controllerPath_congr same]

theorem namespacePath_app (name : String) : namespacePath ("App/" ++ name) = "app/" ++ name := by
  have stripped : Text.stripStart? "App/".toList ("App/" ++ name).toList = some name.toList :=
    Text.stripStart?_eq_some_iff.mpr (by simp)
  rw [namespacePath, stripped]
  simp

end HandlerText

/-! ## One route -/

section Routes

variable (options : Options) (pattern : String) {methods : List String} (middleware : List String)

theorem routeOf?_newerEntry (declared : methods ≠ []) {tree : Tree} {handler : HandlerText}
    (read : RouteEntry.handler? tree = some handler) :
    routeOf? options (newerEntry pattern methods middleware tree) =
      some (.of pattern methods middleware (handler.handler options) options.tagIndex) := by
  rw [routeOf?, RouteEntry.ofTree?_newerEntry pattern methods middleware read, Option.bind_some,
    RouteEntry.route?]
  exact if_neg fun empty => declared (List.isEmpty_iff.mp empty)

theorem routeOf?_olderEntry (declared : methods ≠ []) (namespaceName method : String) :
    routeOf? options (olderEntry pattern methods middleware namespaceName method) =
      some (.of pattern methods middleware
        (.controller (HandlerText.namespacePath namespaceName) method) options.tagIndex) := by
  rw [routeOf?, RouteEntry.ofTree?_olderEntry, Option.bind_some, RouteEntry.route?]
  exact if_neg fun empty => declared (List.isEmpty_iff.mp empty)

variable {module action : String}

/-- A lazy import is read with its action, and without one as the default action. -/
theorem ImportShape.exists_handler (is : IsModuleName module) {tree : Tree}
    (shape : ImportShape module tree) (action : String) :
    ∃ imported : ImportText,
      RouteEntry.handler? (referring (.list true [tree, .text action])) =
        some (.lazy imported action) ∧
      RouteEntry.handler? (referring (.list true [tree])) =
        some (.lazy imported RouteEntry.defaultAction) ∧
      ∀ action, (HandlerText.lazy imported action).handler options =
        .controller (String.ofList (options.controllerPath module.toList)) action := by
  obtain ⟨imported, specifier, read, found, same⟩ := shape.exists_specifier is
  refine ⟨imported, RouteEntry.handler?_referring ?_, RouteEntry.handler?_referring ?_,
    fun action => HandlerText.handler_lazy options action found same⟩
  · simp [RouteEntry.reference?, read, RouteEntry.text?_text]
  · simp [RouteEntry.reference?, read]

theorem HandlerShape.exists_handler (is : IsModuleName module) (acts : IsActionName action)
    {tree : Tree} (shape : HandlerShape module action tree) :
    ∃ handler, RouteEntry.handler? tree = some handler ∧ handler.handler options =
      .controller (String.ofList (options.controllerPath module.toList)) action := by
  cases shape with
  | dotted => exact ⟨_, rfl, HandlerText.handler_dotted options module acts⟩
  | reference =>
    exact ⟨_, RouteEntry.handler?_referring rfl, HandlerText.handler_dotted options module acts⟩
  | lazy shape =>
    obtain ⟨imported, read, _, handled⟩ := shape.exists_handler options is action
    exact ⟨_, read, handled action⟩

/-- Both entries are read, as the same route. -/
def SameRoute (options : Options) (first second : Tree) : Prop :=
  ∃ route, routeOf? options first = some route ∧ routeOf? options second = some route

/-- All shapes of a handler yield the route of one controller, which the options find for the name
of the module.  An import without an action stands for its default action.  The older shape yields
the route of the newer one with the same module, unless the path of the module begins with an
alias of the options. -/
theorem handler_shapes_yield_one_route (declared : methods ≠ []) (is : IsModuleName module)
    (acts : IsActionName action) :
    (∀ handler, HandlerShape module action handler →
      routeOf? options (newerEntry pattern methods middleware handler) =
        some (.of pattern methods middleware
          (.controller (String.ofList (options.controllerPath module.toList)) action)
          options.tagIndex)) ∧
    (∀ imported, ImportShape module imported →
      SameRoute options
        (newerEntry pattern methods middleware (referring (.list true [imported])))
        (newerEntry pattern methods middleware
          (referring (.list true [imported, .text "handle"])))) ∧
    ∀ name : String, Text.trim name.toList = name.toList →
      (∀ head ∈ options.importAliases.keys, ¬ head.toList <+: ("app/" ++ name).toList) →
      SameRoute options
        (olderEntry pattern methods middleware ("App/" ++ name) action)
        (newerEntry pattern methods middleware (.text ("app/" ++ name ++ "." ++ action))) := by
  refine ⟨?_, ?_, ?_⟩
  · intro handler shape
    obtain ⟨text, read, handled⟩ := shape.exists_handler options is acts
    rw [routeOf?_newerEntry options pattern middleware declared read, handled]
  · intro imported shape
    obtain ⟨text, acting, idle, _⟩ := shape.exists_handler options is "handle"
    exact ⟨_, routeOf?_newerEntry options pattern middleware declared idle,
      routeOf?_newerEntry options pattern middleware declared acting⟩
  · intro name trimmed unaliased
    have path : options.controllerPath ("app/" ++ name).toList = ("app/" ++ name).toList := by
      refine options.controllerPath_of_unaliased ?_ unaliased ?_ ?_
      · rw [String.toList_append]
        refine trim_append_of_trim ?_ ?_ trimmed
        · rintro c ⟨⟩
          decide
        · rintro c ⟨⟩
          decide
      · simp
      · simp
    refine ⟨_, routeOf?_olderEntry options pattern middleware declared _ action, ?_⟩
    rw [routeOf?_newerEntry options pattern middleware declared rfl,
      HandlerText.handler_dotted options ("app/" ++ name) acts, path, HandlerText.namespacePath_app,
      String.ofList_toList]

/-- An action of a controller in the shapes of a function with a name and of the older entries. -/
theorem handler_shapes_of_users :
    routeOf? .default (newerEntry "/users" ["GET"] ["auth"]
        (referring (.list true [.fields true [("name", .text "#controllers/users_controller")],
          .text "index"]))) =
      some (.of "/users" ["GET"] ["auth"] (.controller "app/controllers/users_controller" "index")
        Options.default.tagIndex) ∧
    SameRoute .default
      (newerEntry "/users" ["GET"] ["auth"]
        (referring (.list true [.text (importText "#controllers/users_controller")])))
      (newerEntry "/users" ["GET"] ["auth"]
        (referring (.list true [.text (importText "#controllers/users_controller"),
          .text "handle"]))) ∧
    SameRoute .default
      (olderEntry "/users" ["GET"] ["auth"] ("App/" ++ "Controllers/Http/UsersController") "index")
      (newerEntry "/users" ["GET"] ["auth"]
        (.text ("app/" ++ "Controllers/Http/UsersController" ++ "." ++ "index"))) := by
  have is : IsModuleName "#controllers/users_controller" := by decide +kernel
  have acts : IsActionName "index" := by decide +kernel
  have path : String.ofList
      (Options.default.controllerPath "#controllers/users_controller".toList) =
        "app/controllers/users_controller" := by decide +kernel
  obtain ⟨alike, acting, older⟩ := handler_shapes_yield_one_route .default "/users"
    ["auth"] (List.cons_ne_nil "GET" []) is acts
  refine ⟨?_, acting _ .text, older _ (by decide +kernel) (by decide +kernel)⟩
  rw [alike _ (.lazy .function), path]

end Routes

end Routebook
