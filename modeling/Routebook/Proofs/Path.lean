import Routebook.Path
import Routebook.Proofs.Text.Pieces

namespace Routebook
namespace Path

/-!
# Paths below a directory

Joining paths is associative as long as the later ones do not start at the root, so a directory
and the names below it may be joined from either side.  What is below a directory is seen from
there without the pieces at its start that name nothing; apart from these its text is kept.
-/

/-- The path does not start at the root. -/
def IsRelative (path : List Char) : Prop :=
  path.head? ≠ some '/'

instance (path : List Char) : Decidable (IsRelative path) :=
  inferInstanceAs (Decidable (_ ≠ _))

/-- The slash between a path and what is below it, unless the path is empty or ends in one. -/
def slashBehind (path : List Char) : List Char :=
  if path.isEmpty || path.getLast? == some '/' then [] else ['/']

/-- The path of names below a directory. -/
def extend (directory : List Char) (names : List String) : List Char :=
  names.foldl (fun path name => join path name.toList) directory

/-- The path without the pieces at its start that name nothing. -/
def withoutLead (path : List Char) : List Char :=
  Text.joinWith ['/'] ((Text.piecesAt '/' path).dropWhile (!names ·))

/-! ## Joining -/

variable {base path : List Char}

theorem join_of_isRelative (relative : IsRelative path) :
    join base path = base ++ (slashBehind base ++ path) := by
  have plain : (path.head? == some '/') = false := beq_eq_false_iff_ne.mpr relative
  rw [join, slashBehind, plain, Bool.false_or]
  by_cases empty : base.isEmpty = true
  · rw [if_pos empty, List.isEmpty_iff.mp empty]
    rfl
  · rw [if_neg empty, Bool.eq_false_iff.mpr empty, Bool.false_or]
    split <;> rfl

theorem isRelative_join (below : IsRelative base) (relative : IsRelative path) :
    IsRelative (join base path) := by
  rw [join_of_isRelative relative]
  cases base with
  | nil => exact relative
  | cons c rest => exact below

/-- No second slash is put behind a path. -/
theorem slashBehind_append (base path : List Char) :
    slashBehind (base ++ (slashBehind base ++ path)) = slashBehind path := by
  by_cases empty : path = []
  · rw [empty, List.append_nil]
    by_cases closed : (base.isEmpty || base.getLast? == some '/') = true
    · have none : slashBehind base = [] := if_pos closed
      rw [none, List.append_nil, none]
      rfl
    · have slash : slashBehind base = ['/'] := if_neg closed
      rw [slash, slashBehind, List.getLast?_concat]
      simp [slashBehind]
  · have behind := List.append_ne_nil_of_right_ne_nil (slashBehind base) empty
    have last : (base ++ (slashBehind base ++ path)).getLast? = path.getLast? := by
      rw [List.getLast?_append_of_ne_nil _ behind, List.getLast?_append_of_ne_nil _ empty]
    have filled : (base ++ (slashBehind base ++ path)).isEmpty = path.isEmpty := by
      rw [List.isEmpty_eq_false_iff.mpr (List.append_ne_nil_of_right_ne_nil base behind),
        List.isEmpty_eq_false_iff.mpr empty]
    generalize base ++ (slashBehind base ++ path) = longer at last filled
    rw [slashBehind, slashBehind, last, filled]

theorem join_assoc (base : List Char) {path later : List Char} (relative : IsRelative path)
    (relative' : IsRelative later) : join (join base path) later = join base (join path later) := by
  rw [join_of_isRelative relative', join_of_isRelative relative,
    join_of_isRelative (isRelative_join relative relative'), join_of_isRelative relative',
    slashBehind_append]
  simp

theorem isRelative_of_single {name : String} (single : '/' ∉ name.toList) :
    IsRelative name.toList := by
  intro slash
  exact single (List.mem_of_mem_head? slash)

/-- The names below a directory may be joined before the directory is found. -/
theorem extend_join (base : List Char) {path : List Char} (relative : IsRelative path)
    {names : List String} (single : ∀ name ∈ names, '/' ∉ name.toList) :
    extend (join base path) names = join base (extend path names) := by
  induction names generalizing path with
  | nil => rfl
  | cons name rest inductionHypothesis =>
    have plain := isRelative_of_single (single name List.mem_cons_self)
    have tail := inductionHypothesis (isRelative_join relative plain) fun other member =>
      single other (List.mem_cons_of_mem name member)
    rw [extend, List.foldl_cons, join_assoc base relative plain]
    exact tail

theorem isRelative_extend (relative : IsRelative path) {names : List String}
    (single : ∀ name ∈ names, '/' ∉ name.toList) : IsRelative (extend path names) := by
  induction names generalizing path with
  | nil => exact relative
  | cons name rest inductionHypothesis =>
    rw [extend, List.foldl_cons]
    apply inductionHypothesis
    · exact isRelative_join relative (isRelative_of_single (single name List.mem_cons_self))
    · exact fun other member => single other (List.mem_cons_of_mem name member)

/-! ## Seeing a path from another one -/

/-- How a path starts shows in its first piece. -/
def leadOf (first : List Char) : Lead :=
  if first = [] then .root else if first = ['.'] then .here else .name

theorem names_of_leadOf {first : List Char} (named : leadOf first = .name) :
    names first = true := by
  unfold leadOf at named
  split at named
  next => cases named
  next filled =>
    split at named
    next => cases named
    next away => simp [names, filled, away]

theorem split_of_piecesAt {first : List Char} {others : List (List Char)} (filled : path ≠ [])
    (cut : Text.piecesAt '/' path = first :: others) :
    split path = (leadOf first, [first].filter names ++ others) := by
  have whole := Text.joinWith_piecesAt '/' path
  rw [cut] at whole
  unfold split
  rw [cut]
  split
  next shape =>
    rcases List.cons.inj shape with ⟨rfl, rfl⟩
    exact absurd whole.symm filled
  next shape =>
    rcases List.cons.inj shape with ⟨rfl, rfl⟩
    rfl
  next shape =>
    rcases List.cons.inj shape with ⟨rfl, rfl⟩
    rfl
  next root here =>
    have notRoot : first ≠ [] := by
      rintro rfl
      exact root _ rfl
    have notHere : first ≠ ['.'] := by
      rintro rfl
      exact here _ rfl
    have lead : leadOf first = .name := (if_neg notRoot).trans (if_neg notHere)
    rw [lead, List.filter_cons_of_pos (names_of_leadOf lead)]
    rfl

/-- Joining puts the pieces of a path behind those of another one, which keeps its start. -/
theorem exists_pieces_join (filled : base ≠ []) (relative : IsRelative path) :
    ∃ first others others', Text.piecesAt '/' base = first :: others ∧
      Text.piecesAt '/' (join base path) = first :: (others' ++ Text.piecesAt '/' path) ∧
      others.filter names = others'.filter names := by
  rw [join_of_isRelative relative]
  by_cases last : base.getLast? = some '/'
  · rcases List.getLast?_eq_some_iff.mp last with ⟨front, rfl⟩
    have none : slashBehind (front ++ ['/']) = [] := if_pos (by simp)
    have shape : front ++ ['/'] ++ ([] ++ path) = front ++ '/' :: path := by simp
    rcases List.exists_cons_of_ne_nil (Text.piecesAt_ne_nil '/' front) with ⟨first, others, cut⟩
    rw [none, shape, Text.piecesAt_append_cons, Text.piecesAt_append_cons, cut]
    refine ⟨first, others ++ [[]], others, rfl, rfl, ?_⟩
    rw [List.filter_append]
    exact List.append_nil _
  · have slash : slashBehind base = ['/'] := if_neg (by simp [filled, last])
    rcases List.exists_cons_of_ne_nil (Text.piecesAt_ne_nil '/' base) with ⟨first, others, cut⟩
    rw [slash, List.singleton_append, Text.piecesAt_append_cons, cut]
    exact ⟨first, others, others, rfl, rfl, rfl⟩

theorem dropNames?_cons_of_not {piece : List Char} (unnamed : names piece = false)
    (known pieces : List (List Char)) :
    dropNames? known (piece :: pieces) = dropNames? known pieces := by
  cases known <;> simp [dropNames?, unnamed]

/-- The pieces of a directory lead to what is below it. -/
theorem dropNames?_append (known pieces : List (List Char)) :
    dropNames? (known.filter names) (known ++ pieces) = some (pieces.dropWhile (!names ·)) := by
  induction known with
  | nil => rfl
  | cons piece rest inductionHypothesis =>
    rw [List.cons_append]
    cases named : names piece with
    | true =>
      rw [List.filter_cons_of_pos named, dropNames?,
        List.dropWhile_cons_of_neg (by simp [named])]
      dsimp only
      rw [if_pos rfl, inductionHypothesis]
    | false =>
      rw [List.filter_cons_of_neg (by simp [named]), dropNames?_cons_of_not named,
        inductionHypothesis]

/-- What is below a directory is seen from there. -/
theorem below?_join (filled : base ≠ []) (relative : IsRelative path) :
    below? base (join base path) = some (withoutLead path) := by
  rcases exists_pieces_join filled relative with ⟨first, others, others', cut, cut', same⟩
  have filled' : join base path ≠ [] := by
    rw [join_of_isRelative relative]
    exact List.append_ne_nil_of_left_ne_nil filled _
  have seen := dropNames?_append ([first].filter names ++ others') (Text.piecesAt '/' path)
  rw [List.append_assoc] at seen
  unfold below?
  rw [split_of_piecesAt filled cut, split_of_piecesAt filled' cut']
  dsimp only
  rw [if_neg, if_pos rfl, List.filter_append, same, ← List.filter_append, seen]
  · rfl
  · rintro ⟨lead, none⟩
    have kept : first ∈ ([first].filter names ++ others).filter names := by
      simp [names_of_leadOf lead]
    exact List.ne_nil_of_mem kept none

end Path
end Routebook
