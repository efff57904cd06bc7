import Mathlib.Data.List.Forall2
import Routebook.Proofs.Path
import Routebook.Proofs.Project.Files

namespace Routebook
namespace Project

/-!
# The sources of a project

The sources of a directory are its source files in the order of their paths, or the first of them
that is no text.  A source is reported by its path as it is seen from the project, an unreadable
file by its path in the workspace.
-/

/-- The path of names below a directory of the project, in the workspace. -/
def workspacePath (project : Project) (directory : String) (names : List String) : String :=
  String.ofList (Path.extend (project.locate directory) names)

/-- The path of names below a directory, as it is seen from the project and with slashes only.
Nothing is dropped from it if the path of the project is empty. -/
def projectPath (project : Project) (directory : String) (names : List String) : String :=
  let path := Path.extend directory.toList names
  let seen := if project.root = "" then path else Path.withoutLead path
  String.ofList (seen.map fun c => if c = '\\' then '/' else c)

/-- The bytes are those of a text. -/
def IsText (content : ByteArray) : Prop :=
  ∃ text : String, text.toUTF8 = content

/-! ## Texts -/

variable {content : ByteArray}

theorem textOf_eq_ok_iff {text : String} :
    Workspace.textOf content = .ok text ↔ text.toUTF8 = content := by
  unfold Workspace.textOf String.fromUTF8?
  by_cases valid : content.IsValidUTF8
  · rw [dif_pos valid]
    dsimp only
    rw [Except.ok.injEq, ← String.toByteArray_inj]
    exact eq_comm
  · rw [dif_neg valid]
    refine iff_of_false nofun ?_
    rintro rfl
    exact valid text.isValidUTF8

theorem textOf_eq_error_iff {cause : AccessError} :
    Workspace.textOf content = .error cause ↔ ¬ IsText content ∧ cause = .notText := by
  constructor
  · intro failed
    refine ⟨fun ⟨text, same⟩ => ?_, ?_⟩
    · rw [textOf_eq_ok_iff.mpr same] at failed
      cases failed
    · unfold Workspace.textOf at failed
      split at failed
      next => cases failed
      next => exact (Except.error.inj failed).symm
  · rintro ⟨noText, rfl⟩
    unfold Workspace.textOf
    split
    next text found =>
      have read : Workspace.textOf content = .ok text := by rw [Workspace.textOf, found]
      exact absurd ⟨text, textOf_eq_ok_iff.mp read⟩ noText
    next => rfl

/-! ## Looking up -/

variable {files : Workspace}

/-- Where nothing is made, following a piece leaves the files as they are. -/
theorem fst_of_follow {state state' : FileTree × List String} {piece : List Char}
    (followed : Workspace.follow Workspace.refuse state piece = .ok state') :
    state'.1 = state.1 := by
  rcases state with ⟨tree, here⟩
  unfold Workspace.follow at followed
  dsimp only at followed
  split at followed
  next =>
    split at followed
    next => exact (congrArg Prod.fst (Except.ok.inj followed)).symm
    next =>
      split at followed
      next => exact (congrArg Prod.fst (Except.ok.inj followed)).symm
      next =>
        split at followed
        next => cases followed
        next =>
          split at followed
          next => exact (congrArg Prod.fst (Except.ok.inj followed)).symm
          next => cases followed
  next => cases followed

theorem fst_of_foldlM_follow {pieces : List (List Char)} {state state' : FileTree × List String}
    (followed : pieces.foldlM (Workspace.follow Workspace.refuse) state = .ok state') :
    state'.1 = state.1 := by
  induction pieces generalizing state with
  | nil => exact (congrArg Prod.fst (Except.ok.inj followed)).symm
  | cons piece rest inductionHypothesis =>
    rw [List.foldlM_cons] at followed
    cases first : Workspace.follow Workspace.refuse state piece with
    | error cause =>
      rw [first] at followed
      cases followed
    | ok next =>
      rw [first] at followed
      exact (inductionHypothesis followed).trans (fst_of_follow first)

theorem fst_of_trace {path : List Char} {state : FileTree × List String}
    (traced : files.trace Workspace.refuse path = .ok state) : state.1 = files.tree := by
  unfold Workspace.trace at traced
  dsimp only at traced
  split at traced
  next => cases traced
  next =>
    split at traced
    next => cases traced
    next => exact fst_of_foldlM_follow traced

/-- What is found at a path is a part of the files. -/
theorem exists_get?_of_find {path : List Char} {tree : FileTree}
    (found : files.find path = .ok tree) : ∃ names, files.tree.get? names = some tree := by
  unfold Workspace.find at found
  split at found
  next => cases found
  next =>
    cases traced : files.trace Workspace.refuse path with
    | error cause =>
      rw [traced] at found
      cases found
    | ok state =>
      rw [traced] at found
      dsimp only [Bind.bind, Except.bind] at found
      rw [fst_of_trace traced] at found
      split at found
      next below at_names =>
        rcases Except.ok.inj found with rfl
        exact ⟨state.2, at_names⟩
      next => cases found

/-! ## Reported paths -/

variable {project : Project} {directory : String} {names : List String}

theorem reportedPath_extend (relative : Path.IsRelative directory.toList)
    (single : ∀ name ∈ names, '/' ∉ name.toList) :
    project.reportedPath (Path.extend (project.locate directory) names) =
      project.projectPath directory names := by
  unfold reportedPath projectPath locate
  dsimp only
  by_cases atHome : project.root = ""
  · have whole : Path.join project.root.toList directory.toList = directory.toList := by
      rw [atHome]
      exact if_pos (Bool.or_true _)
    have seen (path : List Char) : Path.below? project.root.toList path = some path := by
      rw [atHome]
      rfl
    rw [whole, seen, if_pos atHome, Option.getD_some]
  · have filled : project.root.toList ≠ [] := fun empty => atHome (String.toList_eq_nil_iff.mp empty)
    rw [Path.extend_join _ relative single,
      Path.below?_join filled (Path.isRelative_extend relative single), if_neg atHome,
      Option.getD_some]

/-! ## One file after the other -/

section Readings

variable {ε α β : Type} {read : α → Except ε β}

theorem mapM_cons_eq_ok_iff {first : α} {rest : List α} {values : List β} :
    (first :: rest).mapM read = .ok values ↔
      ∃ value others, read first = .ok value ∧ rest.mapM read = .ok others ∧
        values = value :: others := by
  rw [List.mapM_cons]
  cases read first with
  | error error => exact iff_of_false nofun fun ⟨_, _, impossible, _⟩ => nomatch impossible
  | ok value =>
    cases rest.mapM read with
    | error error => exact iff_of_false nofun fun ⟨_, _, _, impossible, _⟩ => nomatch impossible
    | ok others =>
      constructor
      · intro same
        exact ⟨value, others, rfl, rfl, (Except.ok.inj same).symm⟩
      · rintro ⟨_, _, same, same', rfl⟩
        rw [Except.ok.inj same, Except.ok.inj same']
        rfl

theorem mapM_cons_eq_error_iff {first : α} {rest : List α} {error : ε} :
    (first :: rest).mapM read = .error error ↔
      read first = .error error ∨
        (∃ value, read first = .ok value) ∧ rest.mapM read = .error error := by
  rw [List.mapM_cons]
  cases read first with
  | error error' =>
    constructor
    · intro same
      exact Or.inl (congrArg Except.error (Except.error.inj same))
    · rintro (same | ⟨⟨_, impossible⟩, -⟩)
      · exact congrArg Except.error (Except.error.inj same)
      · cases impossible
  | ok value =>
    cases rest.mapM read with
    | error error' =>
      constructor
      · intro same
        exact Or.inr ⟨⟨value, rfl⟩, congrArg Except.error (Except.error.inj same)⟩
      · rintro (impossible | ⟨-, same⟩)
        · cases impossible
        · exact congrArg Except.error (Except.error.inj same)
    | ok others =>
      refine iff_of_false nofun ?_
      rintro (impossible | ⟨-, impossible⟩) <;> cases impossible

/-- The values that are read belong to the inputs one by one. -/
theorem mapM_eq_ok_iff {inputs : List α} {values : List β} {belongs : α → β → Prop}
    (reads : ∀ input ∈ inputs, ∀ value, read input = .ok value ↔ belongs input value) :
    inputs.mapM read = .ok values ↔ List.Forall₂ belongs inputs values := by
  induction inputs generalizing values with
  | nil =>
    rw [List.forall₂_nil_left_iff]
    exact ⟨fun same => (Except.ok.inj same).symm, fun empty => empty ▸ rfl⟩
  | cons first rest inductionHypothesis =>
    rcases List.forall_mem_cons.mp reads with ⟨readsFirst, readsRest⟩
    rw [mapM_cons_eq_ok_iff, List.forall₂_cons_left_iff]
    constructor
    · rintro ⟨value, others, done, remaining, rfl⟩
      exact ⟨value, others, (readsFirst value).mp done,
        (inductionHypothesis readsRest).mp remaining, rfl⟩
    · rintro ⟨value, others, done, remaining, rfl⟩
      exact ⟨value, others, (readsFirst value).mpr done,
        (inductionHypothesis readsRest).mpr remaining, rfl⟩

/-- The error is that of the first input that cannot be read. -/
theorem mapM_eq_error_iff {inputs : List α} {error : ε} :
    inputs.mapM read = .error error ↔
      ∃ before input after, inputs = before ++ input :: after ∧
        (∀ earlier ∈ before, ∃ value, read earlier = .ok value) ∧ read input = .error error := by
  induction inputs with
  | nil =>
    refine iff_of_false nofun ?_
    rintro ⟨before, input, after, impossible, -⟩
    exact absurd impossible.symm (List.append_ne_nil_of_right_ne_nil before (List.cons_ne_nil _ _))
  | cons first rest inductionHypothesis =>
    rw [mapM_cons_eq_error_iff, inductionHypothesis]
    constructor
    · rintro (failed | ⟨readable, before, input, after, rfl, earlier, failed⟩)
      · exact ⟨[], first, rest, rfl, List.forall_mem_nil _, failed⟩
      · exact ⟨first :: before, input, after, rfl,
          List.forall_mem_cons.mpr ⟨readable, earlier⟩, failed⟩
    · rintro ⟨before, input, after, shape, earlier, failed⟩
      rcases List.cons_eq_append_iff.mp shape with ⟨rfl, same⟩ | ⟨others, rfl, same⟩
      · rcases List.cons.inj same with ⟨rfl, rfl⟩
        exact Or.inl failed
      · have readable := List.forall_mem_cons.mp earlier
        exact Or.inr ⟨readable.1, others, input, after, same, readable.2, failed⟩

end Readings

/-! ## The sources of a directory -/

variable {file : LocatedFile}

/-- Each file is read as a source of its own, whatever stands around it. -/
theorem sourceOf_eq (relative : Path.IsRelative directory.toList)
    (single : ∀ name ∈ file.names, '/' ∉ name.toList) :
    project.sourceOf (project.locate directory) file =
      match Workspace.textOf file.content with
      | .ok text => .ok ⟨project.projectPath directory file.names, text⟩
      | .error cause => .error ⟨project.workspacePath directory file.names, cause⟩ := by
  rw [← reportedPath_extend relative single]
  rfl

theorem sourceOf_eq_ok_iff (relative : Path.IsRelative directory.toList)
    (single : ∀ name ∈ file.names, '/' ∉ name.toList) {source : Source} :
    project.sourceOf (project.locate directory) file = .ok source ↔
      source.path = project.projectPath directory file.names ∧
        source.text.toUTF8 = file.content := by
  rw [sourceOf_eq relative single, ← textOf_eq_ok_iff]
  cases Workspace.textOf file.content with
  | error cause => exact iff_of_false nofun fun both => nomatch both.2
  | ok text =>
    rcases source with ⟨path, text'⟩
    rw [Except.ok.injEq, Except.ok.injEq, Source.mk.injEq]
    exact and_congr_left' eq_comm

theorem sourceOf_eq_error_iff (relative : Path.IsRelative directory.toList)
    (single : ∀ name ∈ file.names, '/' ∉ name.toList) {error : SourceError} :
    project.sourceOf (project.locate directory) file = .error error ↔
      ¬ IsText file.content ∧ error = ⟨project.workspacePath directory file.names, .notText⟩ := by
  rw [sourceOf_eq relative single]
  cases read : Workspace.textOf file.content with
  | ok text =>
    have isText : IsText file.content := ⟨text, textOf_eq_ok_iff.mp read⟩
    exact iff_of_false nofun fun both => both.1 isText
  | error cause =>
    rcases textOf_eq_error_iff.mp read with ⟨noText, rfl⟩
    rw [Except.error.injEq]
    exact ⟨fun same => ⟨noText, same.symm⟩, fun both => both.2.symm⟩

theorem exists_sourceOf_eq_ok_iff (relative : Path.IsRelative directory.toList)
    (single : ∀ name ∈ file.names, '/' ∉ name.toList) :
    (∃ source, project.sourceOf (project.locate directory) file = .ok source) ↔
      IsText file.content := by
  constructor
  · rintro ⟨source, read⟩
    exact ⟨source.text, ((sourceOf_eq_ok_iff relative single).mp read).2⟩
  · rintro ⟨text, same⟩
    exact ⟨⟨_, text⟩, (sourceOf_eq_ok_iff relative single).mpr ⟨rfl, same⟩⟩

theorem sources_of_find {tree : FileTree}
    (found : project.files.find (project.locate directory) = .ok tree) :
    project.sources directory =
      tree.sourceFiles.mapM (project.sourceOf (project.locate directory)) := by
  unfold sources
  dsimp only
  rw [found]

theorem sources_of_not_isDirectory
    (absent : project.files.isDirectory (project.locate directory) = false) :
    project.sources directory = .ok [] := by
  unfold Workspace.isDirectory at absent
  cases found : project.files.find (project.locate directory) with
  | error cause =>
    unfold sources
    dsimp only
    rw [found]
  | ok tree =>
    rw [sources_of_find found]
    cases tree with
    | file content => rfl
    | directory entries =>
      rw [found] at absent
      cases absent

/-- The sources below a relative path of the project.  There are none unless the path is that of
a directory.  Otherwise the files are those below the directory with the name of a source and
nothing on the way to them that is passed over; each of them precedes the later ones, so it
stands there once.  The sources are these files one by one with their paths and texts, and they
can be read unless a file is no text: then the first such file is reported. -/
theorem sources_below_directory (project : Project) {directory : String}
    (relative : Path.IsRelative directory.toList) (proper : project.files.tree.Proper) :
    (project.files.isDirectory (project.locate directory) = false →
        project.sources directory = .ok []) ∧
      ∀ tree, project.files.find (project.locate directory) = .ok tree →
        ∃ files, (∀ file, file ∈ files ↔ tree.IsSource file) ∧
          files.Pairwise LocatedFile.Before ∧
          (∀ sources, project.sources directory = .ok sources ↔
            List.Forall₂ (fun file source =>
              source.path = project.projectPath directory file.names ∧
                source.text.toUTF8 = file.content) files sources) ∧
          ∀ error, project.sources directory = .error error ↔
            ∃ before file after, files = before ++ file :: after ∧
              (∀ earlier ∈ before, IsText earlier.content) ∧ ¬ IsText file.content ∧
              error = ⟨project.workspacePath directory file.names, .notText⟩ := by
  refine ⟨sources_of_not_isDirectory, fun tree found => ?_⟩
  rcases exists_get?_of_find found with ⟨way, at_way⟩
  have inner := (proper.of_get? at_way).1
  have single : ∀ file ∈ tree.sourceFiles, ∀ name ∈ file.names, '/' ∉ name.toList := by
    intro file member name inside
    have source := (FileTree.mem_sourceFiles inner).mp member
    exact (inner.of_get? source.found).2 name inside
  refine ⟨tree.sourceFiles, fun file => FileTree.mem_sourceFiles inner,
    FileTree.pairwise_sourceFiles inner, fun sources => ?_, fun error => ?_⟩
  · rw [sources_of_find found]
    exact mapM_eq_ok_iff fun file member source =>
      sourceOf_eq_ok_iff relative (single file member)
  · rw [sources_of_find found, mapM_eq_error_iff]
    refine exists_congr fun before => exists_congr fun file => exists_congr fun after =>
      and_congr_right fun shape => ?_
    rw [shape, List.forall_mem_append, List.forall_mem_cons] at single
    rw [sourceOf_eq_error_iff relative single.2.1]
    exact and_congr_left' (forall₂_congr fun earlier member =>
      exists_sourceOf_eq_ok_iff relative (single.1 earlier member))

/-- The directory of models of a project: two models, a file of declarations and a package. -/
def blogModels : FileTree :=
  .directory [("user.ts", .file "class User \x7b\x7d".toUTF8), ("user.d.ts", .file ⟨#[]⟩),
    ("blog", .directory [("post.js", .file "class Post \x7b\x7d".toUTF8)]),
    ("node_modules", .directory [("left.js", .file ⟨#[]⟩)])]

/-- A project in a directory of its own. -/
def blog : Project where
  files := ⟨.directory [("app", .directory [("models", blogModels)])], []⟩
  root := "app"

theorem proper_blogModels : blogModels.Proper := by
  apply FileTree.Proper.cons _ (by decide) (by decide) (.file _)
  apply FileTree.Proper.cons _ (by decide) (by decide) (.file _)
  apply FileTree.Proper.cons _ (by decide) (by decide)
  · exact FileTree.proper_empty.cons (by decide) (by decide) (.file _)
  apply FileTree.proper_empty.cons (by decide) (by decide)
  exact FileTree.proper_empty.cons (by decide) (by decide) (.file _)

theorem proper_blog : blog.files.tree.Proper := by
  apply FileTree.proper_empty.cons (by decide) (by decide)
  exact FileTree.proper_empty.cons (by decide) (by decide) proper_blogModels

/-- Of the four files of the project the two models are its sources. -/
theorem sources_below_blog_models :
    Path.IsRelative "models".toList ∧ blog.files.tree.Proper ∧
      ∃ files : List LocatedFile, files.Pairwise LocatedFile.Before ∧
        ⟨["blog", "post.js"], "class Post \x7b\x7d".toUTF8⟩ ∈ files ∧
        ⟨["user.ts"], "class User \x7b\x7d".toUTF8⟩ ∈ files ∧
        ⟨["user.d.ts"], ⟨#[]⟩⟩ ∉ files ∧ ⟨["node_modules", "left.js"], ⟨#[]⟩⟩ ∉ files ∧
        ∀ sources, blog.sources "models" = .ok sources ↔
          List.Forall₂ (fun file source =>
            source.path = blog.projectPath "models" file.names ∧
              source.text.toUTF8 = file.content) files sources := by
  have relative : Path.IsRelative "models".toList := by decide
  have found : blog.files.find (blog.locate "models") = .ok blogModels := by rfl
  rcases (sources_below_directory blog relative proper_blog).2 blogModels found with
    ⟨files, gathered, ordered, read, -⟩
  refine ⟨relative, proper_blog, files, ordered, ?_, ?_, ?_, ?_, read⟩
  · rw [gathered]
    exact ⟨rfl, by decide, "post.js", rfl, by decide⟩
  · rw [gathered]
    exact ⟨rfl, by decide, "user.ts", rfl, by decide⟩
  · rw [gathered]
    rintro ⟨-, -, name, last, ends⟩
    rcases Option.some.inj last with rfl
    revert ends
    decide
  · rw [gathered]
    intro source
    exact (source.visible "node_modules" List.mem_cons_self).2 rfl

end Project
end Routebook
