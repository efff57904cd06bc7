import Routebook.Project
import Routebook.Proofs.Entries
import Routebook.Proofs.Text.Cut
import Routebook.Proofs.Text.Order

namespace Routebook

/-!
# The source files of a directory

The files below a directory are gathered entry by entry, so that what is passed over hides
everything below it.  This is the same as asking each file for its whole path: it is a source if
its own name is that of a source and no name on the way to it is passed over.

The entries of each directory are visited in the order of their names, and what is below an entry
stands at its place.  Over the whole tree this is the order of paths name by name, in which each
file has one place.
-/

/-! ## Names -/

/-- The name is neither hidden nor that of a directory of packages. -/
def IsVisible (name : String) : Prop :=
  name.toList.head? ≠ some '.' ∧ name ≠ "node_modules"

/-- The name ends in the extension of a source, and not in that of declarations. -/
def EndsAsSource (name : String) : Prop :=
  (".ts".toList <:+ name.toList ∨ ".js".toList <:+ name.toList) ∧
    ¬ ".d.ts".toList <:+ name.toList

instance (name : String) : Decidable (IsVisible name) :=
  inferInstanceAs (Decidable (_ ∧ _))

instance (name : String) : Decidable (EndsAsSource name) :=
  inferInstanceAs (Decidable (_ ∧ _))

theorem isPassedOver_iff {name : String} : isPassedOver name = true ↔ ¬ IsVisible name := by
  rw [isPassedOver, IsVisible, Bool.or_eq_true, beq_iff_eq, beq_iff_eq]
  tauto

/-- An extension stands behind the last point, and a point at the start of a name begins none. -/
theorem extension?_eq_some_iff {name extension : List Char} (free : '.' ∉ extension)
    (visible : name.head? ≠ some '.') :
    Path.extension? name = some extension ↔ '.' :: extension <:+ name := by
  unfold Path.extension?
  constructor
  · intro found
    split at found
    next before after cut =>
      split at found
      next => cases found
      next =>
        rcases Option.some.inj found with rfl
        rw [(Text.eq_append_of_cutLastAt? cut).1]
        exact List.suffix_append before _
    next => cases found
  · rintro ⟨before, rfl⟩
    rw [Text.cutLastAt?_append_cons free]
    cases before with
    | nil => exact absurd rfl visible
    | cons => rfl

theorem isSourceName_iff {name : String} (visible : IsVisible name) :
    isSourceName name = true ↔ EndsAsSource name := by
  have ends : Text.endsWith ".d.ts".toList name.toList = true ↔
      ".d.ts".toList <:+ name.toList := by
    rw [Text.endsWith, Option.isSome_iff_exists]
    constructor
    · rintro ⟨rest, stripped⟩
      exact ⟨rest, (Text.stripEnd?_eq_some_iff.mp stripped).symm⟩
    · rintro ⟨rest, whole⟩
      exact ⟨rest, Text.stripEnd?_eq_some_iff.mpr whole.symm⟩
  have listed : ((Path.extension? name.toList).map String.ofList).any sourceExtensions.contains =
        true ↔
      Path.extension? name.toList = some "ts".toList ∨
        Path.extension? name.toList = some "js".toList := by
    cases Path.extension? name.toList with
    | none => simp
    | some extension =>
      simp [sourceExtensions, ← String.toList_inj]
  rw [isSourceName, Bool.and_eq_true, Bool.not_eq_true', ← Bool.not_eq_true, ends, listed,
    extension?_eq_some_iff (by decide) visible.1, extension?_eq_some_iff (by decide) visible.1]
  exact and_comm

/-- The path of the first file precedes that of the second one, name by name in the order of
bytes. -/
def LocatedFile.Before (first second : LocatedFile) : Prop :=
  first.names.map Text.bytes < second.names.map Text.bytes

namespace FileTree

variable {tree : FileTree} {entries : List (String × FileTree)}

/-! ## Directory trees -/

/-- In every directory the names are distinct, and each is one piece of a path. -/
inductive Proper : FileTree → Prop
  | file (content : ByteArray) : Proper (.file content)
  | directory {entries : List (String × FileTree)} (distinct : (entryKeys entries).Nodup)
    (single : ∀ entry ∈ entries, '/' ∉ entry.1.toList)
    (inner : ∀ entry ∈ entries, Proper entry.2) : Proper (.directory entries)

/-- The file stands below the tree and is a source: its own name ends as one, and nothing on the
way to it is passed over. -/
structure IsSource (tree : FileTree) (file : LocatedFile) : Prop where
  found : tree.get? file.names = some (.file file.content)
  visible : ∀ name ∈ file.names, IsVisible name
  named : ∃ name ∈ file.names.getLast?, EndsAsSource name

theorem proper_empty : empty.Proper :=
  .directory .nil (List.forall_mem_nil _) (List.forall_mem_nil _)

/-- An entry may be added under a new name. -/
theorem Proper.cons {name : String} (proper : (FileTree.directory entries).Proper)
    (one : '/' ∉ name.toList) (fresh : name ∉ entryKeys entries) (inner : tree.Proper) :
    (FileTree.directory ((name, tree) :: entries)).Proper := by
  cases proper with
  | directory distinct single innerRest =>
    exact .directory (List.nodup_cons.mpr ⟨fresh, distinct⟩)
      (List.forall_mem_cons.mpr ⟨one, single⟩) (List.forall_mem_cons.mpr ⟨inner, innerRest⟩)

/-- What stands below a tree is as well formed as the tree, and each name on the way is one piece
of a path. -/
theorem Proper.of_get? (proper : tree.Proper) {names : List String} {below : FileTree}
    (found : tree.get? names = some below) :
    below.Proper ∧ ∀ name ∈ names, '/' ∉ name.toList := by
  induction names generalizing tree with
  | nil => exact ⟨Option.some.inj found ▸ proper, List.forall_mem_nil _⟩
  | cons name rest inductionHypothesis =>
    rcases Option.bind_eq_some_iff.mp found with ⟨next, at_name, further⟩
    have entry := mem_of_entryAt?_eq_some at_name
    cases proper with
    | file => cases entry
    | directory distinct single inner =>
      have later := inductionHypothesis (inner _ entry) further
      exact ⟨later.1, List.forall_mem_cons.mpr ⟨single _ entry, later.2⟩⟩

/-! ## Gathering -/

/-- The sources that an entry contributes, as seen from the entry. -/
def contributed (name : String) (tree : FileTree) : List LocatedFile :=
  if isPassedOver name then []
  else match tree with
    | .file content => if isSourceName name then [⟨[], content⟩] else []
    | .directory entries => sourceFiles (.directory entries)

theorem branches_eq (entries : List (String × FileTree)) :
    branches entries = entries.map fun entry => (entry.1, contributed entry.1 entry.2) := by
  induction entries with
  | nil => rfl
  | cons entry rest inductionHypothesis =>
    rcases entry with ⟨name, tree⟩
    have first : branches ((name, tree) :: rest) = (name, contributed name tree) :: branches rest := by
      cases tree <;> rfl
    rw [first, inductionHypothesis, List.map_cons]

/-- The entries of a directory with what they contribute, in the order of their names. -/
def visited (entries : List (String × FileTree)) : List (String × List LocatedFile) :=
  (entries.map fun entry => (entry.1, contributed entry.1 entry.2)).mergeSort precedes

theorem sourceFiles_directory (entries : List (String × FileTree)) :
    sourceFiles (.directory entries) =
      (visited entries).flatMap fun branch => branch.2.map (·.under branch.1) := by
  rw [visited, ← branches_eq]
  rfl

theorem mem_visited {branch : String × List LocatedFile} :
    branch ∈ visited entries ↔
      ∃ entry ∈ entries, (entry.1, contributed entry.1 entry.2) = branch := by
  rw [visited, List.mem_mergeSort, List.mem_map]

/-- A file is gathered below the entry that its first name leads to. -/
theorem mem_sourceFiles_directory {names : List String} {content : ByteArray} :
    ⟨names, content⟩ ∈ sourceFiles (.directory entries) ↔
      ∃ name rest tree, names = name :: rest ∧ (name, tree) ∈ entries ∧
        ⟨rest, content⟩ ∈ contributed name tree := by
  rw [sourceFiles_directory, List.mem_flatMap]
  constructor
  · rintro ⟨branch, inside, member⟩
    rcases mem_visited.mp inside with ⟨⟨name, tree⟩, entry, rfl⟩
    rcases List.mem_map.mp member with ⟨⟨rest, _⟩, here, same⟩
    rcases LocatedFile.mk.inj same with ⟨rfl, rfl⟩
    exact ⟨name, rest, tree, rfl, entry, here⟩
  · rintro ⟨name, rest, tree, rfl, entry, here⟩
    exact ⟨_, mem_visited.mpr ⟨(name, tree), entry, rfl⟩, List.mem_map.mpr ⟨_, here, rfl⟩⟩

theorem not_isSource_of_names_eq_nil {content : ByteArray} : ¬ tree.IsSource ⟨[], content⟩ := by
  intro source
  rcases source.named with ⟨name, last, -⟩
  cases last

theorem contributed_of_not_visible {name : String} (hidden : ¬ IsVisible name) :
    contributed name tree = [] := by
  unfold contributed
  exact if_pos (isPassedOver_iff.mpr hidden)

theorem mem_contributed_file {name : String} (visible : IsVisible name) {held content : ByteArray}
    {rest : List String} :
    ⟨rest, content⟩ ∈ contributed name (.file held) ↔
      (rest = [] ∧ held = content) ∧ EndsAsSource name := by
  have kept : ¬ isPassedOver name = true := fun passed => isPassedOver_iff.mp passed visible
  unfold contributed
  rw [if_neg kept, ← isSourceName_iff visible]
  dsimp only
  split
  next named =>
    rw [List.mem_singleton, LocatedFile.mk.injEq]
    exact ⟨fun same => ⟨⟨same.1, same.2.symm⟩, named⟩, fun same => ⟨same.1.1, same.1.2.symm⟩⟩
  next unnamed => exact iff_of_false List.not_mem_nil fun source => unnamed source.2

theorem contributed_directory {name : String} (visible : IsVisible name) :
    contributed name (.directory entries) = sourceFiles (.directory entries) := by
  unfold contributed
  exact if_neg fun passed => isPassedOver_iff.mp passed visible

/-- What an entry contributes, if the sources of a directory are known. -/
theorem mem_contributed {name : String} {rest : List String} {content : ByteArray}
    (below : ⟨rest, content⟩ ∈ tree.sourceFiles ↔ tree.IsSource ⟨rest, content⟩) :
    ⟨rest, content⟩ ∈ contributed name tree ↔
      tree.get? rest = some (.file content) ∧ (∀ other ∈ name :: rest, IsVisible other) ∧
        ∃ last ∈ (name :: rest).getLast?, EndsAsSource last := by
  by_cases visible : IsVisible name
  · cases tree with
    | file held =>
      rw [mem_contributed_file visible]
      cases rest with
      | nil => simp [get?, visible]
      | cons other rest =>
        have absent : get? (other :: rest) (.file held) = none := rfl
        simp [absent]
    | directory entries =>
      rw [contributed_directory visible, below]
      cases rest with
      | nil =>
        refine iff_of_false not_isSource_of_names_eq_nil fun source => ?_
        cases source.1
      | cons other rest =>
        rw [List.forall_mem_cons, List.getLast?_cons_cons]
        exact ⟨fun source => ⟨source.found, ⟨visible, source.visible⟩, source.named⟩,
          fun source => ⟨source.1, source.2.1.2, source.2.2⟩⟩
  · rw [contributed_of_not_visible visible]
    exact iff_of_false List.not_mem_nil fun source => visible (source.2.1 name List.mem_cons_self)

/-- The files that are gathered are the sources below the tree. -/
theorem mem_sourceFiles (proper : tree.Proper) {file : LocatedFile} :
    file ∈ tree.sourceFiles ↔ tree.IsSource file := by
  rcases file with ⟨names, content⟩
  induction proper generalizing names with
  | file held =>
    refine iff_of_false List.not_mem_nil fun source => ?_
    cases names with
    | nil => exact not_isSource_of_names_eq_nil source
    | cons name rest => cases source.found
  | @directory entries distinct single inner inductionHypothesis =>
    rw [mem_sourceFiles_directory]
    constructor
    · rintro ⟨name, rest, tree, rfl, entry, here⟩
      have source := (mem_contributed (inductionHypothesis _ entry rest)).mp here
      refine ⟨?_, source.2.1, source.2.2⟩
      rw [get?, FileTree.entries, entryAt?_eq_some_of_mem distinct entry]
      exact source.1
    · intro source
      cases names with
      | nil => exact absurd source not_isSource_of_names_eq_nil
      | cons name rest =>
        rcases Option.bind_eq_some_iff.mp source.found with ⟨tree, at_name, found⟩
        have entry := mem_of_entryAt?_eq_some at_name
        refine ⟨name, rest, tree, rfl, entry, ?_⟩
        exact (mem_contributed (inductionHypothesis _ entry rest)).mpr
          ⟨found, source.visible, source.named⟩

/-! ## Order -/

theorem precedes_trans (first second third : String × List LocatedFile)
    (before : precedes first second = true) (behind : precedes second third = true) :
    precedes first third = true :=
  decide_eq_true (le_trans (of_decide_eq_true before) (of_decide_eq_true behind))

theorem precedes_total (first second : String × List LocatedFile) :
    (precedes first second || precedes second first) = true := by
  rw [Bool.or_eq_true]
  exact (le_total first.1 second.1).imp decide_eq_true decide_eq_true

/-- No two entries are visited under one name, so their order is strict. -/
theorem pairwise_visited (distinct : (entryKeys entries).Nodup) :
    (visited entries).Pairwise fun first second => first.1 < second.1 := by
  have sorted : (visited entries).Pairwise fun first second => precedes first second = true :=
    List.pairwise_mergeSort precedes_trans precedes_total _
  have names : ((visited entries).map Prod.fst).Perm (entryKeys entries) := by
    have moved := (List.mergeSort_perm
      (entries.map fun entry => (entry.1, contributed entry.1 entry.2)) precedes).map Prod.fst
    rwa [List.map_map] at moved
  have apart : (visited entries).Pairwise fun first second => first.1 ≠ second.1 :=
    List.pairwise_map.mp (names.nodup_iff.mpr distinct)
  refine (sorted.and apart).imp fun both => ?_
  exact lt_of_le_of_ne (of_decide_eq_true both.1) both.2

theorem before_under_of_lt {name name' : String} (less : name < name')
    (first second : LocatedFile) : (first.under name).Before (second.under name') :=
  List.cons_lt_cons_iff.mpr (Or.inl (Text.bytes_lt_bytes less))

theorem before_under {first second : LocatedFile} (name : String) (before : first.Before second) :
    (first.under name).Before (second.under name) :=
  List.cons_lt_cons_iff.mpr (Or.inr ⟨rfl, before⟩)

theorem pairwise_contributed (name : String)
    (below : tree.sourceFiles.Pairwise LocatedFile.Before) :
    (contributed name tree).Pairwise LocatedFile.Before := by
  unfold contributed
  split
  next => exact .nil
  next =>
    split
    next =>
      split
      next => exact List.pairwise_singleton _ _
      next => exact .nil
    next => exact below

/-- The sources are gathered in the order of their paths. -/
theorem pairwise_sourceFiles (proper : tree.Proper) :
    tree.sourceFiles.Pairwise LocatedFile.Before := by
  induction proper with
  | file => exact .nil
  | @directory entries distinct single inner inductionHypothesis =>
    rw [sourceFiles_directory, List.pairwise_flatMap]
    constructor
    · intro branch inside
      rcases mem_visited.mp inside with ⟨entry, member, rfl⟩
      have below := pairwise_contributed entry.1 (inductionHypothesis entry member)
      exact List.pairwise_map.mpr (below.imp (before_under entry.1))
    · refine (pairwise_visited distinct).imp fun less first inFirst second inSecond => ?_
      rcases List.mem_map.mp inFirst with ⟨file, -, rfl⟩
      rcases List.mem_map.mp inSecond with ⟨file', -, rfl⟩
      exact before_under_of_lt less file file'

end FileTree
end Routebook
