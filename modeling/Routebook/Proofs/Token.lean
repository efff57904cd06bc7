import Routebook.Proofs.Text.Pieces
import Routebook.Token

namespace Routebook
namespace Token

/-!
# Written tokens

A token is found by what opens it, wherever that stands on the line.  A row of tokens behind a
text is read token by token because an opening ends in its only parenthesis: where it occurs,
a token begins, and the opening is at least the end of the name of that token.  So it is enough
that no name is the end of another name, and values and the text in front may hold the names.
-/

/-! ## Rows of tokens -/

/-- A token with the value that stands in its parentheses. -/
structure Written where
  name : String
  value : List Char

/-- Tokens in a row, each with a point in front of it. -/
def write : List Written → List Char
  | [] => []
  | token :: later => '.' :: (opening token.name ++ (token.value ++ ')' :: write later))

/-- Tokens in a row, each with a gap and a mark in front of it. -/
def row (gap : List Char) (mark : Char) : List Written → List Char
  | [] => []
  | token :: later =>
    gap ++ mark :: (opening token.name ++ (token.value ++ ')' :: row gap mark later))

theorem write_eq_row (tokens : List Written) : write tokens = row [] '.' tokens := by
  induction tokens with
  | nil => rfl
  | cons token later inductionHypothesis =>
    rw [write, row, inductionHypothesis, List.nil_append]

theorem row_append (gap : List Char) (mark : Char) (earlier later : List Written) :
    row gap mark (earlier ++ later) = row gap mark earlier ++ row gap mark later := by
  induction earlier with
  | nil => rfl
  | cons token earlier inductionHypothesis =>
    rw [List.cons_append, row, row, inductionHypothesis]
    simp

/-- Names for tokens that are told apart. -/
structure Apart (names : List String) : Prop where
  plain : ∀ name ∈ names, '(' ∉ name.toList ∧ ')' ∉ name.toList ∧ '.' ∉ name.toList
  ends : ∀ name ∈ names, ∀ other ∈ names, name.toList <:+ other.toList → name = other

/-- Names for tokens that are told apart behind a mark. -/
structure ApartBehind (mark : Char) (names : List String) : Prop where
  boundary : mark ≠ '(' ∧ isBoundary (some mark) = true
  plain : ∀ name ∈ names, '(' ∉ name.toList ∧ mark ∉ name.toList
  ends : ∀ name ∈ names, ∀ other ∈ names, name.toList <:+ other.toList → name = other

theorem Apart.behind {names : List String} (apart : Apart names) : ApartBehind '.' names where
  boundary := ⟨by decide, by decide⟩
  plain name known := ⟨(apart.plain name known).1, (apart.plain name known).2.2⟩
  ends := apart.ends

/-- A token with one of the names, whose value ends where the token does. -/
structure Written.Among (names : List String) (token : Written) : Prop where
  known : token.name ∈ names
  plain : '(' ∉ token.value ∧ ')' ∉ token.value

theorem opening_ne_nil (name : String) : opening name ≠ [] :=
  List.append_ne_nil_of_right_ne_nil _ (List.cons_ne_nil _ _)

theorem write_append (earlier later : List Written) :
    write (earlier ++ later) = write earlier ++ write later := by
  simp only [write_eq_row, row_append]

theorem not_mem_write {c : Char} (mark : c ∉ ['.', '(', ')']) {tokens : List Written}
    (name : ∀ token ∈ tokens, c ∉ token.name.toList) (value : ∀ token ∈ tokens, c ∉ token.value) :
    c ∉ write tokens := by
  induction tokens with
  | nil => exact List.not_mem_nil
  | cons token later inductionHypothesis =>
    have tail := inductionHypothesis
      (fun other member => name other (List.mem_cons_of_mem token member))
      (fun other member => value other (List.mem_cons_of_mem token member))
    simp only [List.mem_cons, List.not_mem_nil, or_false, not_or] at mark
    simp [write, opening, mark, name token List.mem_cons_self, value token List.mem_cons_self, tail]

/-- A row of tokens ends in a parenthesis. -/
theorem getLast?_row (gap : List Char) (mark : Char) {tokens : List Written}
    (nonempty : tokens ≠ []) : (row gap mark tokens).getLast? = some ')' := by
  rcases (List.eq_nil_or_concat tokens).resolve_left nonempty with ⟨earlier, last, rfl⟩
  have shape : row gap mark (earlier ++ [last]) =
      row gap mark earlier ++ gap ++ mark :: (opening last.name ++ last.value) ++ [')'] := by
    simp [row_append, row]
  rw [List.concat_eq_append, shape, List.getLast?_concat]

theorem getLast?_write {tokens : List Written} (nonempty : tokens ≠ []) :
    (write tokens).getLast? = some ')' := by
  rw [write_eq_row]
  exact getLast?_row [] '.' nonempty

/-! ## Finding a token -/

section Rows

variable {names : List String} {head gap : List Char} {mark : Char} {name : String}

/-- The text in front of a parenthesis ends in one name only, if a mark stands before it. -/
theorem ApartBehind.eq_of_suffix (apart : ApartBehind mark names) {other : String}
    (known : name ∈ names) (known' : other ∈ names) {front : List Char}
    (ends : name.toList <:+ front ++ mark :: other.toList) : name = other := by
  have noMark : mark ∉ name.toList := (apart.plain name known).2
  have marked : mark :: other.toList <:+ front ++ mark :: other.toList := List.suffix_append _ _
  rcases List.suffix_or_suffix_of_suffix ends marked with inner | outer
  · rcases List.suffix_cons_iff.mp inner with whole | inner
    · exact absurd (whole ▸ List.mem_cons_self) noMark
    · exact apart.ends name known other known' inner
  · exact absurd (outer.subset List.mem_cons_self) noMark

/-- No token of a name is found in a row without one. -/
theorem not_infix_row (apart : ApartBehind mark names) (free : '(' ∉ head) (freeGap : '(' ∉ gap)
    (known : name ∈ names) {tokens : List Written} (among : ∀ token ∈ tokens, token.Among names)
    (absent : ∀ token ∈ tokens, token.name ≠ name) :
    ¬ opening name <:+: head ++ row gap mark tokens := by
  unfold opening
  -- From the end of the row, since the opening ends in the last parenthesis in front of it.
  induction tokens using List.reverseRecOn with
  | nil =>
    intro held
    rw [row, List.append_nil] at held
    exact free (held.subset (List.mem_append_right _ List.mem_cons_self))
  | append_singleton earlier token inductionHypothesis =>
    have shape : head ++ row gap mark (earlier ++ [token]) =
        (head ++ row gap mark earlier ++ (gap ++ mark :: token.name.toList) ++ ['(']) ++
          (token.value ++ [')']) := by
      simp [row_append, row, opening]
    have last : token.Among names := among token (by simp)
    have noOpening : '(' ∉ token.value ++ [')'] := by
      simp [last.plain.1]
    have namePlain : '(' ∉ gap ++ mark :: token.name.toList := by
      simp [freeGap, apart.boundary.1.symm, (apart.plain _ last.known).1]
    rw [shape, Text.infix_append_iff_of_concat noOpening, Text.infix_concat_iff,
      Text.infix_append_iff_of_concat namePlain, ← List.append_assoc]
    rintro (ends | held)
    · exact absent token (by simp) (apart.eq_of_suffix known last.known ends).symm
    · exact inductionHypothesis (fun token member => among token (List.mem_append_left _ member))
        (fun token member => absent token (List.mem_append_left _ member)) held

/-- The first token of a name is found behind the tokens of other names. -/
theorem cut?_row (apart : ApartBehind mark names) (free : '(' ∉ head) (freeGap : '(' ∉ gap)
    (known : name ∈ names) {earlier : List Written} (among : ∀ token ∈ earlier, token.Among names)
    (absent : ∀ token ∈ earlier, token.name ≠ name) (after : List Char) :
    Text.cut? (opening name)
        (head ++ (row gap mark earlier ++ (gap ++ mark :: (opening name ++ after)))) =
      some (head ++ row gap mark earlier ++ gap ++ [mark], after) := by
  have shape : head ++ (row gap mark earlier ++ (gap ++ mark :: (opening name ++ after))) =
      (head ++ row gap mark earlier ++ gap ++ [mark]) ++ (opening name ++ after) := by
    simp
  have before : ¬ opening name <:+:
      (head ++ row gap mark earlier ++ gap ++ [mark]) ++ (opening name).dropLast := by
    have front := not_infix_row apart free freeGap known among absent
    have namePlain : '(' ∉ gap ++ mark :: name.toList := by
      simp [freeGap, apart.boundary.1.symm, (apart.plain _ known).1]
    have whole : (head ++ row gap mark earlier ++ gap ++ [mark]) ++ name.toList =
        (head ++ row gap mark earlier) ++ (gap ++ mark :: name.toList) := by
      simp
    unfold opening at front ⊢
    rw [List.dropLast_concat, whole, Text.infix_append_iff_of_concat namePlain]
    exact front
  rw [shape]
  exact Text.cut?_append (opening_ne_nil name) before after

/-- A mark with a word behind it is not found if no name begins with the word. -/
theorem not_marked_infix_row {word : List Char} (boundary : mark ≠ '(' ∧ mark ≠ ')')
    (free : mark ∉ head) (freeGap : mark ∉ gap) (plain : '(' ∉ word) {tokens : List Written}
    (apart : ∀ token ∈ tokens,
      mark ∉ token.name.toList ∧ mark ∉ token.value ∧ ¬ word <+: token.name.toList) :
    ¬ mark :: word <:+: head ++ row gap mark tokens := by
  induction tokens generalizing head with
  | nil =>
    intro held
    rw [row, List.append_nil] at held
    exact free (held.subset List.mem_cons_self)
  | cons token later inductionHypothesis =>
    have here := apart token List.mem_cons_self
    have front : mark ∉ head ++ gap := by
      simp [free, freeGap]
    have inner : mark ∉ opening token.name ++ token.value ++ [')'] := by
      simp [opening, boundary, here]
    have shape : head ++ row gap mark (token :: later) = (head ++ gap) ++ mark ::
        ((opening token.name ++ token.value ++ [')']) ++ row gap mark later) := by
      simp [row]
    rw [shape, Text.infix_append_iff_of_cons front, List.infix_cons_iff, List.cons_prefix_cons]
    rintro (⟨-, begins⟩ | held)
    · -- The word ends in front of the parenthesis, so it begins the name.
      have name : token.name.toList <+:
          (opening token.name ++ token.value ++ [')']) ++ row gap mark later := by
        simp [opening]
      rcases List.prefix_or_prefix_of_prefix begins name with within | ⟨rest, rfl⟩
      · exact here.2.2 within
      · have behind : rest <+: '(' :: (token.value ++ ')' :: row gap mark later) := by
          apply (List.prefix_append_right_inj token.name.toList).mp
          simpa [opening] using begins
        cases rest with
        | nil => exact here.2.2 (by simp)
        | cons c rest =>
          rw [(List.cons_prefix_cons.mp behind).1] at plain
          exact plain (by simp)
    · exact inductionHypothesis inner
        (fun other member => apart other (List.mem_cons_of_mem token member)) held

theorem not_infix_write (apart : Apart names) (free : '(' ∉ head) (known : name ∈ names)
    {tokens : List Written} (among : ∀ token ∈ tokens, token.Among names)
    (absent : ∀ token ∈ tokens, token.name ≠ name) :
    ¬ opening name <:+: head ++ write tokens := by
  rw [write_eq_row]
  exact not_infix_row apart.behind free List.not_mem_nil known among absent

theorem cut?_write (apart : Apart names) (free : '(' ∉ head) (known : name ∈ names)
    {earlier : List Written} (among : ∀ token ∈ earlier, token.Among names)
    (absent : ∀ token ∈ earlier, token.name ≠ name) (after : List Char) :
    Text.cut? (opening name) (head ++ (write earlier ++ '.' :: (opening name ++ after))) =
      some (head ++ write earlier ++ ['.'], after) := by
  have found := cut?_row apart.behind free List.not_mem_nil known among absent after
  rwa [List.nil_append, List.append_nil, ← write_eq_row] at found

/-! ## Reading a token -/

theorem rawValue?_of_absent {previous : Option Char} {line : List Char}
    (absent : ¬ opening name <:+: line) : rawValue? (opening name) previous line = none := by
  rw [rawValue?]
  split
  next => rfl
  next found =>
    have none := Text.cut?_eq_none_iff.mpr absent
    exact absurd (found.symm.trans none) (Option.some_ne_none _)

theorem rawValue?_of_found {previous : Option Char} {line before after : List Char}
    (found : Text.cut? (opening name) line = some (before, after)) :
    rawValue? (opening name) previous line =
      if isBoundary (before.getLast?.or previous) then
        match Text.cutAt? ')' after with
        | none => none
        | some (value, _) =>
          if value.contains '(' then rawValue? (opening name) (some '(') after else some value
      else rawValue? (opening name) (some '(') after := by
  rw [rawValue?]
  split
  next none => exact absurd (found.symm.trans none) (Option.some_ne_none _)
  next other =>
    rcases Prod.mk.inj (Option.some.inj (other.symm.trans found)) with ⟨rfl, rfl⟩
    exact dif_neg (opening_ne_nil name)

theorem rawValue?_of_cut? {line before value after : List Char}
    (found : Text.cut? (opening name) line = some (before ++ [mark], value ++ ')' :: after))
    (stops : isBoundary (some mark) = true) (plain : '(' ∉ value ∧ ')' ∉ value) :
    rawValue? (opening name) none line = some value := by
  have boundary : isBoundary ((before ++ [mark]).getLast?.or none) = true := by
    rw [List.getLast?_concat]
    exact stops
  have noOpening : ¬ value.contains '(' = true := by
    simp [plain.1]
  rw [rawValue?_of_found found, if_pos boundary, Text.cutAt?_append_cons plain.2]
  dsimp only
  rw [if_neg noOpening]

/-- A character in front of a line makes no difference if a token may begin behind it. -/
theorem rawValue?_cons {c : Char} (apart : c ∉ opening name)
    (boundary : isBoundary (some c) = true) (line : List Char) :
    rawValue? (opening name) none (c :: line) = rawValue? (opening name) none line := by
  have absent : ¬ opening name <:+: [] := fun held =>
    opening_ne_nil name (List.infix_nil.mp held)
  have cut : Text.cut? (opening name) (c :: line) = _ := Text.cut?_append_cons apart absent line
  cases found : Text.cut? (opening name) line with
  | none =>
    rw [found, Option.map_none] at cut
    rw [rawValue?_of_absent (Text.cut?_eq_none_iff.mp found),
      rawValue?_of_absent (Text.cut?_eq_none_iff.mp cut)]
  | some parts =>
    rw [found, Option.map_some] at cut
    have same : isBoundary ((c :: parts.1).getLast?.or none) =
        isBoundary (parts.1.getLast?.or none) := by
      cases parts.1 with
      | nil => exact boundary
      | cons first others => rw [List.getLast?_cons_cons]
    rw [rawValue?_of_found cut, rawValue?_of_found found, List.nil_append, same]

/-- The value of a name is that of its first token in the row. -/
theorem rawValue?_row (apart : ApartBehind mark names) (free : '(' ∉ head) (freeGap : '(' ∉ gap)
    (known : name ∈ names) {tokens : List Written}
    (among : ∀ token ∈ tokens, token.Among names) :
    rawValue? (opening name) none (head ++ row gap mark tokens) =
      (tokens.find? (·.name == name)).map (·.value) := by
  cases search : tokens.find? (·.name == name) with
  | none =>
    apply rawValue?_of_absent
    apply not_infix_row apart free freeGap known among
    intro token member same
    exact List.find?_eq_none.mp search token member (beq_iff_eq.mpr same)
  | some token =>
    rcases List.find?_eq_some_iff_append.mp search with ⟨same, earlier, later, rfl, absent⟩
    rcases beq_iff_eq.mp same with rfl
    have here : token.Among names := among token (by simp)
    have front : ∀ other ∈ earlier, other.Among names := fun other member =>
      among other (List.mem_append_left _ member)
    have others : ∀ other ∈ earlier, other.name ≠ token.name := fun other member same => by
      simpa [same] using absent other member
    have found := cut?_row apart free freeGap known front others
      (token.value ++ ')' :: row gap mark later)
    rw [row_append]
    exact rawValue?_of_cut? found apart.boundary.2 here.plain

theorem rawValue?_write (apart : Apart names) (free : '(' ∉ head) (known : name ∈ names)
    {tokens : List Written} (among : ∀ token ∈ tokens, token.Among names) :
    rawValue? (opening name) none (head ++ write tokens) =
      (tokens.find? (·.name == name)).map (·.value) := by
  rw [write_eq_row]
  exact rawValue?_row apart.behind free List.not_mem_nil known among

/-! ## Removing tokens -/

theorem removeOpening_of_absent {line : List Char} (absent : ¬ opening name <:+: line) :
    removeOpening (opening name) line = line := by
  rw [removeOpening]
  split
  next => rfl
  next found =>
    have none := Text.cut?_eq_none_iff.mpr absent
    exact absurd (found.symm.trans none) (Option.some_ne_none _)

theorem removeOpening_of_unclosed {line before after : List Char}
    (found : Text.cut? (opening name) line = some (before, after))
    (unclosed : Text.cutAt? ')' (opening name ++ after) = none) :
    removeOpening (opening name) line = line := by
  rw [removeOpening]
  split
  next => rfl
  next other =>
    rcases Prod.mk.inj (Option.some.inj (other.symm.trans found)) with ⟨rfl, rfl⟩
    split
    next => rfl
    next closed => exact absurd (closed.symm.trans unclosed) (Option.some_ne_none _)

/-- What one removal leaves of a line. -/
theorem removeOpening_of_closed {line before after token rest : List Char}
    (found : Text.cut? (opening name) line = some (before, after))
    (closed : Text.cutAt? ')' (opening name ++ after) = some (token, rest)) :
    removeOpening (opening name) line =
      removeOpening (opening name) (dropPoint before ++ rest) := by
  rw [removeOpening]
  split
  next none => exact absurd (found.symm.trans none) (Option.some_ne_none _)
  next other =>
    rcases Prod.mk.inj (Option.some.inj (other.symm.trans found)) with ⟨rfl, rfl⟩
    split
    next none => exact absurd (closed.symm.trans none) (Option.some_ne_none _)
    next other' =>
      rcases Prod.mk.inj (Option.some.inj (other'.symm.trans closed)) with ⟨-, rfl⟩
      rfl

/-- A token is removed with the point in front of it. -/
theorem removeOpening_of_cut? {line before value after : List Char}
    (found : Text.cut? (opening name) line = some (before ++ ['.'], value ++ ')' :: after))
    (plain : ')' ∉ name.toList) (valuePlain : ')' ∉ value) :
    removeOpening (opening name) line = removeOpening (opening name) (before ++ after) := by
  have closed : Text.cutAt? ')' (opening name ++ (value ++ ')' :: after)) =
      some (opening name ++ value, after) := by
    rw [← List.append_assoc]
    refine Text.cutAt?_append_cons ?_ after
    simp [opening, plain, valuePlain]
  have point : dropPoint (before ++ ['.']) = before := by
    rw [dropPoint, Text.stripEnd?_eq_some_iff.mpr rfl, Option.getD_some]
  rw [removeOpening_of_closed found closed, point]

/-- The tokens of a name are removed from a row, and those of other names are kept. -/
theorem removeOpening_write (apart : Apart names) (free : '(' ∉ head) (known : name ∈ names)
    (earlier later : List Written) (among : ∀ token ∈ earlier ++ later, token.Among names)
    (absent : ∀ token ∈ earlier, token.name ≠ name) :
    removeOpening (opening name) (head ++ write (earlier ++ later)) =
      head ++ write (earlier ++ later.filter (·.name != name)) := by
  induction later generalizing earlier with
  | nil =>
    rw [List.filter_nil]
    rw [List.append_nil] at among ⊢
    exact removeOpening_of_absent (not_infix_write apart free known among absent)
  | cons token later inductionHypothesis =>
    by_cases same : token.name = name
    · have here : token.Among names := among token (by simp)
      have rest : ∀ token ∈ earlier ++ later, token.Among names := by
        intro other member
        apply among other
        apply List.mem_append.mpr
        exact (List.mem_append.mp member).imp_right (List.mem_cons_of_mem token)
      have front : ∀ other ∈ earlier, other.Among names := fun other member =>
        rest other (List.mem_append_left _ member)
      have found := cut?_write apart free known front absent (token.value ++ ')' :: write later)
      have line : head ++ write (earlier ++ token :: later) = head ++ (write earlier ++
          '.' :: (opening name ++ (token.value ++ ')' :: write later))) := by
        rw [write_append, write, same]
      rw [line, removeOpening_of_cut? found (apart.plain name known).2.1 here.plain.2,
        List.append_assoc, ← write_append, inductionHypothesis earlier rest absent,
        List.filter_cons_of_neg (by simp [same])]
    · -- The token is kept and belongs to those that were passed over.
      have among' : ∀ other ∈ (earlier ++ [token]) ++ later, other.Among names := by
        simpa using among
      have absent' : ∀ other ∈ earlier ++ [token], other.name ≠ name := by
        intro other member
        rcases List.mem_append.mp member with front | here
        · exact absent other front
        · exact List.mem_singleton.mp here ▸ same
      have shift := inductionHypothesis (earlier ++ [token]) among' absent'
      rw [List.filter_cons_of_pos (by simp [same])]
      simpa using shift

/-- The tokens of several names are removed from a row. -/
theorem remove_write_of_subset (apart : Apart names) (free : '(' ∉ head) {removed : List String}
    (within : removed ⊆ names) {tokens : List Written}
    (among : ∀ token ∈ tokens, token.Among names) :
    remove removed (head ++ write tokens) =
      head ++ write (tokens.filter (!removed.contains ·.name)) := by
  induction removed generalizing tokens with
  | nil => simp [remove]
  | cons name removed inductionHypothesis =>
    have known : name ∈ names := within List.mem_cons_self
    have step := removeOpening_write apart free known [] tokens among nofun
    have kept := inductionHypothesis (fun other member => within (List.mem_cons_of_mem name member))
      (fun token (member : token ∈ tokens.filter (·.name != name)) =>
        among token (List.mem_filter.mp member).1)
    have both : (tokens.filter (·.name != name)).filter (!removed.contains ·.name) =
        tokens.filter (!(name :: removed).contains ·.name) := by
      rw [List.filter_filter]
      apply List.filter_congr
      intro token _
      rw [List.contains_cons, Bool.not_or, Bool.and_comm, bne]
    rw [List.nil_append, List.nil_append] at step
    rw [remove, List.foldl_cons, step, ← remove, kept, both]

/-- Nothing of a row is left when all names are removed. -/
theorem remove_write (apart : Apart names) (free : '(' ∉ head) {tokens : List Written}
    (among : ∀ token ∈ tokens, token.Among names) : remove names (head ++ write tokens) = head := by
  have none : tokens.filter (!names.contains ·.name) = [] := by
    rw [List.filter_eq_nil_iff]
    intro token member
    simp [(among token member).known]
  rw [remove_write_of_subset apart free (List.Subset.refl names) among, none, write,
    List.append_nil]

end Rows

/-! ## Lists -/

/-- The characters that begin or end a reference, an example or the value of a token. -/
def brackets : List Char := ['<', '>', '{', '}', '(', ')']

/-- An entry of a list that stands in a token. -/
structure IsEntry (entry : String) : Prop where
  filled : entry ≠ ""
  solid : ∀ c ∈ entry.toList, Text.isBlank c = false
  plain : ∀ c ∈ entry.toList, c ≠ ',' ∧ c ∉ brackets

/-- The tokens of lists, each with the name of its token.  An empty list has no token. -/
def ofLists (lists : List (String × List String)) : List Written :=
  (lists.filter (!·.2.isEmpty)).map fun list =>
    ⟨list.1, Text.joinWith [',', ' '] (list.2.map String.toList)⟩

/-- The entries of a list are read back. -/
theorem entries_joinWith {texts : List String} (filled : ∀ text ∈ texts, text ≠ "")
    (solid : ∀ text ∈ texts, ∀ c ∈ text.toList, Text.isBlank c = false)
    (free : ∀ text ∈ texts, ',' ∉ text.toList) :
    entries ((Text.joinWith [',', ' '] (texts.map String.toList)).filter (!Text.isBlank ·)) =
      texts := by
  have kept : ∀ text ∈ texts, text.toList.filter (!Text.isBlank ·) = text.toList := by
    intro text member
    rw [List.filter_eq_self]
    intro c inside
    rw [solid text member c inside, Bool.not_false]
  have joined : (Text.joinWith [',', ' '] (texts.map String.toList)).filter (!Text.isBlank ·) =
      Text.joinWith [','] (texts.map String.toList) := by
    rw [Text.filter_joinWith, List.map_map]
    congr 1
    exact List.map_congr_left kept
  have apart : ∀ text ∈ texts.map String.toList, ',' ∉ text :=
    List.forall_mem_map.mpr free
  rw [joined, entries]
  by_cases none : texts = []
  · rw [none]
    rfl
  · have nonempty : texts.map String.toList ≠ [] := fun empty => none (List.map_eq_nil_iff.mp empty)
    have trimmed : (texts.map String.toList).map Text.trim = texts.map String.toList := by
      rw [List.map_map]
      exact List.map_congr_left fun text member => Text.trim_of_solid (solid text member)
    have filled' : (texts.map String.toList).filter (!·.isEmpty) = texts.map String.toList := by
      rw [List.filter_eq_self]
      refine List.forall_mem_map.mpr fun text member => ?_
      simpa using filled text member
    rw [Text.piecesAt_joinWith nonempty apart, trimmed, filled', List.map_map]
    simp [Function.comp_def]

section Lists

variable {names : List String} {head : List Char} {name : String}
  {lists : List (String × List String)}

theorem find?_ofLists_of_absent (absent : name ∉ lists.map Prod.fst) :
    (ofLists lists).find? (·.name == name) = none := by
  rw [List.find?_eq_none]
  intro token member same
  rcases List.mem_map.mp member with ⟨list, kept, rfl⟩
  exact absent (beq_iff_eq.mp same ▸ List.mem_map_of_mem (List.mem_filter.mp kept).1)

/-- The value of a list is the value of its token, and of no token if the list is empty. -/
theorem find?_ofLists_of_mem (distinct : (lists.map Prod.fst).Nodup) {entries : List String}
    (member : (name, entries) ∈ lists) :
    (((ofLists lists).find? (·.name == name)).map (·.value)).getD [] =
      Text.joinWith [',', ' '] (entries.map String.toList) := by
  induction lists with
  | nil => cases member
  | cons first others inductionHypothesis =>
    rcases first with ⟨other, texts⟩
    rw [List.map_cons, List.nodup_cons] at distinct
    have tail := inductionHypothesis distinct.2
    cases texts with
    | nil =>
      have skipped : ofLists ((other, []) :: others) = ofLists others := rfl
      rw [skipped]
      rcases List.mem_cons.mp member with here | later
      · rcases Prod.mk.inj here with ⟨rfl, rfl⟩
        rw [find?_ofLists_of_absent distinct.1]
        rfl
      · exact tail later
    | cons text texts =>
      have kept : ofLists ((other, text :: texts) :: others) =
          ⟨other, Text.joinWith [',', ' '] ((text :: texts).map String.toList)⟩ ::
            ofLists others := rfl
      rw [kept]
      rcases List.mem_cons.mp member with here | later
      · rcases Prod.mk.inj here with ⟨rfl, rfl⟩
        rw [List.find?_cons_of_pos (by simp)]
        rfl
      · have different : other ≠ name := by
          rintro rfl
          exact distinct.1 (List.mem_map.mpr ⟨(other, entries), later, rfl⟩)
        rw [List.find?_cons_of_neg (by simpa using different)]
        exact tail later

theorem not_mem_value_ofLists (written : ∀ list ∈ lists, ∀ entry ∈ list.2, IsEntry entry) {c : Char}
    (bracket : c ∈ brackets) : ∀ token ∈ ofLists lists, c ∉ token.value := by
  intro token member inside
  rcases List.mem_map.mp member with ⟨list, kept, rfl⟩
  have listed : list ∈ lists := (List.mem_filter.mp kept).1
  rcases Text.mem_joinWith inside with mark | ⟨text, inner, here⟩
  · have noBracket : ∀ c ∈ [',', ' '], c ∉ brackets := List.forall_iff_forall_mem.mp (by decide)
    exact noBracket c mark bracket
  · rcases List.mem_map.mp inner with ⟨entry, entered, rfl⟩
    exact ((written list listed entry entered).plain c here).2 bracket

theorem among_ofLists (known : ∀ list ∈ lists, list.1 ∈ names)
    (written : ∀ list ∈ lists, ∀ entry ∈ list.2, IsEntry entry) :
    ∀ token ∈ ofLists lists, token.Among names := by
  intro token member
  have opens := not_mem_value_ofLists written (c := '(') (by decide) token member
  have closes := not_mem_value_ofLists written (c := ')') (by decide) token member
  rcases List.mem_map.mp member with ⟨list, kept, rfl⟩
  exact ⟨known list (List.mem_filter.mp kept).1, opens, closes⟩

theorem value_write_of_absent (apart : Apart names) (free : '(' ∉ head) (named : name ∈ names)
    (known : ∀ list ∈ lists, list.1 ∈ names)
    (written : ∀ list ∈ lists, ∀ entry ∈ list.2, IsEntry entry)
    (absent : name ∉ lists.map Prod.fst) : value name (head ++ write (ofLists lists)) = [] := by
  have raw := rawValue?_write apart free named (among_ofLists known written)
  rw [find?_ofLists_of_absent absent] at raw
  rw [value, raw]
  rfl

/-- Lists that are written as tokens behind a text are read back by their names. -/
theorem listValue_write (apart : Apart names) (free : '(' ∉ head)
    (known : ∀ list ∈ lists, list.1 ∈ names)
    (written : ∀ list ∈ lists, ∀ entry ∈ list.2, IsEntry entry)
    (distinct : (lists.map Prod.fst).Nodup) {entries : List String}
    (member : (name, entries) ∈ lists) (kept : name ≠ verbatimName) :
    listValue name (head ++ write (ofLists lists)) = entries := by
  have raw := rawValue?_write apart free (known _ member) (among_ofLists known written)
  have value := find?_ofLists_of_mem distinct member
  rw [← raw] at value
  rw [listValue, Token.value]
  have reads := entries_joinWith (fun text among => (written _ member text among).filled)
    (fun text among => (written _ member text among).solid)
    fun text among comma => ((written _ member text among).plain _ comma).1 rfl
  rw [← value] at reads
  cases found : rawValue? (opening name) none (head ++ write (ofLists lists)) with
  | none =>
    rw [found] at reads
    exact reads
  | some text =>
    rw [found, Option.getD_some] at reads
    dsimp only
    rw [if_neg (by simpa using kept), reads]

end Lists

end Token
end Routebook
