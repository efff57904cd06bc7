import Routebook.Notes.Directive
import Routebook.Proofs.Notes.Comments
import Routebook.Proofs.Notes.Session

namespace Routebook

/-!
# Directives that look like tags

The first line of a comment is tried as a tag before it is tried as a directive, and a tag is any
text without blanks behind an at sign.  Most directives have a blank behind their keyword, and
then the comment belongs to the method below it.  A directive may do without: its argument may
stand in parentheses right behind the keyword, or be missing.  Such a line is taken for a tag, the
comment goes to an action of that name, and the directive is lost.

The theorem here decides by the blanks of the line which of the two happens.
-/

open CommentBlock

theorem Comment.write_append (earlier later : List Comment) (tail : List Char) :
    write (earlier ++ later) tail = write earlier (write later tail) := by
  induction earlier with
  | nil => rfl
  | cons comment earlier inductionHypothesis =>
    rw [List.cons_append, write, inductionHypothesis, write]

/-- The blocks of some comments, and those of the comments behind them. -/
theorem Gathers.parts {tail : List Char} {earlier later : List Comment}
    {blocks : List CommentBlock} (gathers : Gathers tail (earlier ++ later) blocks) :
    ∃ above below, blocks = above ++ below ∧ Gathers (Comment.write later tail) earlier above ∧
      Gathers tail later below := by
  induction earlier generalizing blocks with
  | nil => exact ⟨[], blocks, rfl, .done, gathers⟩
  | cons comment earlier inductionHypothesis =>
    rw [List.cons_append] at gathers
    cases gathers with
    | block documents rest =>
      rw [Comment.write_append] at documents
      rcases inductionHypothesis rest with ⟨above, below, rfl, front, back⟩
      exact ⟨_ :: above, below, rfl, .block documents front, back⟩
    | dropped nothing rest =>
      rw [Comment.write_append] at nothing
      rcases inductionHypothesis rest with ⟨above, below, rfl, front, back⟩
      exact ⟨above, below, rfl, .dropped nothing front, back⟩

/-- A comment that documents something is a block, and the blocks around it are those of the
comments around it. -/
theorem Gathers.at_block {tail : List Char} {earlier later : List Comment} {comment : Comment}
    {block : CommentBlock} {blocks : List CommentBlock}
    (documents : Documents comment.body (comment.after ++ Comment.write later tail) block)
    (gathers : Gathers tail (earlier ++ comment :: later) blocks) :
    ∃ above below, blocks = above ++ block :: below ∧
      Gathers (Comment.write (comment :: later) tail) earlier above ∧
      Gathers tail later below := by
  rcases gathers.parts with ⟨above, rest, rfl, front, back⟩
  cases back with
  | block other below =>
    have same := Option.some.inj ((of?_eq_some_iff.mpr documents).symm.trans
      (of?_eq_some_iff.mpr other))
    exact ⟨above, _, by rw [same], front, below⟩
  | dropped nothing => exact absurd documents (nothing block)

/-- A directive without blanks has the form of a tag. -/
theorem isTag_of_directive {line : List Char} {directive : Directive}
    (read : Directive.ofLine? line = some directive) (solid : ∀ c ∈ line, Text.isBlank c = false) :
    IsTag line := by
  refine ⟨?_, solid⟩
  rw [Directive.ofLine?, Text.trim_of_solid solid] at read
  split at read
  next => rfl
  next => cases read

/-- A comment that begins with a directive and stands above a method is a block.  It is the block
of the method, with the directive in its first line, exactly if the directive has a blank in it;
and then the annotation of the method begins with the directive, unless an earlier comment has
documented the method.  A directive without blanks is taken for the name of an action. -/
theorem directive_block_attached_iff (source : CommentedText) {earlier later : List Comment}
    {comment : Comment} (parted : source.comments = earlier ++ comment :: later)
    {first : List Char} {others : List (List Char)}
    (lines : cleanLines comment.body = first :: others) {directive : Directive}
    (read : Directive.ofLine? first = some directive) {line : List Char} {method : String}
    (below : Text.firstLine? (comment.after ++ Comment.write later source.tail) = some line)
    (declares : Declares line method) (name : method ∉ reserved) :
    ∃ above block rest, commentBlocks source.text = above ++ block :: rest ∧
      Gathers (Comment.write (comment :: later) source.tail) earlier above ∧
      Gathers source.tail later rest ∧
      (block = ⟨method, (first :: others).map String.ofList⟩ ↔
        ∃ c ∈ first, Text.isBlank c = true) ∧
      ((∀ c ∈ first, Text.isBlank c = false) →
        block = ⟨String.ofList (Text.trimStartWhere (· == '@') first),
          others.map String.ofList⟩) ∧
      ((∃ c ∈ first, Text.isBlank c = true) → (∀ other ∈ above, other.action ≠ method) →
        ∀ catalog options,
          (notesOf catalog options (String.ofList source.text)).get? method =
            some ((directive :: others.filterMap Directive.ofLine?).foldl
              (Notes.apply (Notes.expansionOf catalog options) options) (.blank method))) := by
  have gathers : Gathers source.tail source.comments (commentBlocks source.text) :=
    (commentBlocks_write_eq_iff (fun _ plain => source.commentBlocks_append_tail plain)
      source.plain source.comments _).mp rfl
  rw [parted] at gathers
  by_cases solid : ∀ c ∈ first, Text.isBlank c = false
  · have tag : IsTag first := isTag_of_directive read solid
    have noBlank : ¬ ∃ c ∈ first, Text.isBlank c = true := by
      rintro ⟨c, member, blank⟩
      exact Bool.false_ne_true ((solid c member).symm.trans blank)
    rcases Gathers.at_block (.of_isTag lines tag _) gathers with ⟨above, rest, whole, front, back⟩
    refine ⟨above, _, rest, whole, front, back, ?_, fun _ => rfl, fun blank => absurd blank noBlank⟩
    refine ⟨fun same => ?_, fun blank => absurd blank noBlank⟩
    -- The block of the method has one line more.
    have length := congrArg (fun block : CommentBlock => block.lines.length) same
    simp only [List.length_map, List.length_cons] at length
    omega
  · have blank : ∃ c ∈ first, Text.isBlank c = true := by
      simpa using solid
    have untagged : ∀ other, (first :: others).head? = some other → ¬ IsTag other := by
      rintro other ⟨⟩ tag
      exact solid tag.2
    rcases Gathers.at_block (.declared (hasLines_iff.mpr lines) untagged below declares name)
      gathers with ⟨above, rest, whole, front, back⟩
    refine ⟨above, _, rest, whole, front, back, ⟨fun _ => blank, fun _ => rfl⟩,
      fun noBlank => absurd noBlank solid, ?_⟩
    intro _ fresh catalog options
    rw [get?_notesOf, annotationIn?, String.toList_ofList, whole, List.find?_append]
    have unnamed : above.find? (·.action == method) = none := by
      rw [List.find?_eq_none]
      intro other member same
      exact fresh other member (beq_iff_eq.mp same)
    have found : ∀ block : CommentBlock, block.action = method →
        (block :: rest).find? (·.action == method) = some block := fun block same =>
      List.find?_cons_of_pos (beq_iff_eq.mpr same)
    rw [unnamed, Option.none_or, found _ rfl, Option.map_some, Notes.ofLines, List.filterMap_map]
    have directives : (first :: others).filterMap
        ((fun line : String => Directive.ofLine? line.toList) ∘ String.ofList) =
          directive :: others.filterMap Directive.ofLine? := by
      simp [read]
    rw [directives]

/-- Two comments above methods, whose directives differ in a blank. -/
def usersController : CommentedText where
  before := "class UsersController \x7b\n".toList
  comments :=
    [⟨" @summary List users ".toList, "\n  async index() \x7b\x7d\n".toList,
      Text.cut?_eq_none_iff.mp (by decide +kernel), Text.cut?_eq_none_iff.mp (by decide +kernel)⟩,
     ⟨" @paramUse(sortable) ".toList, "\n  async show() \x7b\x7d\n\x7d".toList,
      Text.cut?_eq_none_iff.mp (by decide +kernel), Text.cut?_eq_none_iff.mp (by decide +kernel)⟩]
  unclosed := none
  plain := Text.cut?_eq_none_iff.mp (by decide +kernel)
  open_ := nofun

theorem directive_block_attached_summary :
    ∃ above rest, commentBlocks usersController.text =
      above ++ ⟨"index", ["@summary List users"]⟩ :: rest := by
  have word : ∀ c ∈ "ndex".toList, isMethodChar c = true :=
    List.forall_iff_forall_mem.mp (by decide)
  have blank : ∀ c ∈ [' '], Text.isBlank c = true := List.forall_iff_forall_mem.mp (by decide)
  have declares : Declares "async index() \x7b\x7d".toList "index" :=
    @Declares.modified "async" "index" [' '] "index() \x7b\x7d".toList (by decide) (by decide) blank
      (@Declares.called 'i' "ndex".toList [] "() \x7b\x7d".toList (by decide) word nofun
        (.plain ") \x7b\x7d".toList))
  have parted : usersController.comments = [] ++ _ :: _ := rfl
  have lines : cleanLines " @summary List users ".toList = ["@summary List users".toList] := by
    decide +kernel
  have read : Directive.ofLine? "@summary List users".toList = some (.summary "List users") := by
    decide +kernel
  rcases directive_block_attached_iff usersController parted lines read (by decide +kernel)
      declares (by decide) with
    ⟨above, block, rest, whole, -, -, attached, -⟩
  rw [attached.mpr ⟨' ', by decide, by decide⟩] at whole
  exact ⟨above, rest, whole⟩

/-- The second comment stands above a method and holds a directive only, but no block of the
source belongs to the method. -/
theorem paramUse_block_detached :
    Directive.ofLine? "@paramUse(sortable)".toList = some (.parameterGroups ["sortable"]) ∧
    followingMethod? "\n  async show() \x7b\x7d\n\x7d".toList = some "show" ∧
    commentBlocks usersController.text =
      [⟨"index", ["@summary List users"]⟩, ⟨"paramUse(sortable)", []⟩] := by
  decide +kernel

end Routebook
