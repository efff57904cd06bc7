import Routebook.Proofs.Notes.Lines
import Routebook.Proofs.Notes.Method

namespace Routebook

/-!
# Comments of a source

A source alternates between text and comments, and may end in a comment that is never closed.
The scan for comment blocks looks for one sign after the other in what is left of the source.
It therefore has to be shown that no sign is found across a border, and that no comment is passed
over: `CommentBlock.Documents` says which block a comment is on its own, with the text behind it,
and `Gathers` goes through the comments in their order.

The text behind a comment matters only to a comment without a tag, and only by its first line
that is not blank.
-/

/-! ## One comment -/

namespace CommentBlock

/-- A line names an action: it begins with an at sign and has no blanks. -/
def IsTag (line : List Char) : Prop :=
  line.head? = some '@' ∧ ∀ c ∈ line, Text.isBlank c = false

theorem isActionLine_iff {line : List Char} : isActionLine line = true ↔ IsTag line := by
  rw [isActionLine, IsTag, Bool.and_eq_true, Text.startsWith_singleton_iff, Bool.not_eq_true',
    List.any_eq_false]
  simp only [Bool.not_eq_true]

/-- The block of a comment with a body, given the text behind it.  A tag in the first line names
the action, all at signs in front of the name apart, and is no line of the block.  Otherwise the
block belongs to the method that is declared below. -/
inductive Documents (body behind : List Char) : CommentBlock → Prop where
  | tagged {signs name : List Char} {others : List (List Char)}
      (lines : HasLines body ((signs ++ name) :: others)) (tag : IsTag (signs ++ name))
      (signed : ∀ c ∈ signs, c = '@') (begins : name.head? ≠ some '@') :
      Documents body behind ⟨String.ofList name, others.map String.ofList⟩
  | declared {lines : List (List Char)} {line : List Char} {method : String}
      (written : HasLines body lines) (untagged : ∀ first, lines.head? = some first → ¬ IsTag first)
      (below : Text.firstLine? behind = some line) (declares : Declares line method)
      (name : method ∉ reserved) :
      Documents body behind ⟨method, lines.map String.ofList⟩

/-- The name behind at signs is what is left when they are dropped. -/
theorem trimStartWhere_signs {signs name : List Char} (signed : ∀ c ∈ signs, c = '@')
    (begins : name.head? ≠ some '@') :
    Text.trimStartWhere (· == '@') (signs ++ name) = name := by
  apply (Text.span_append _ _).2
  · exact fun c member => beq_iff_eq.mpr (signed c member)
  · intro c first
    rw [beq_eq_false_iff_ne]
    rintro rfl
    exact begins first

theorem Documents.of_isTag {body tag : List Char} {others : List (List Char)}
    (lines : cleanLines body = tag :: others) (names : IsTag tag) (behind : List Char) :
    Documents body behind
      ⟨String.ofList (Text.trimStartWhere (· == '@') tag), others.map String.ofList⟩ := by
  rcases Text.exists_span (· == '@') tag with ⟨signs, name, rfl, signed, stop, -, left⟩
  have written : HasLines body ((signs ++ name) :: others) := hasLines_iff.mpr lines
  have begins : name.head? ≠ some '@' := fun first =>
    Bool.false_ne_true ((stop '@' first).symm.trans (beq_self_eq_true '@'))
  rw [Text.trimStartWhere, left]
  exact .tagged written names (fun c member => beq_iff_eq.mp (signed c member)) begins

theorem of?_of_isTag {body tag : List Char} {others : List (List Char)}
    (lines : cleanLines body = tag :: others) (names : IsTag tag) (behind : List Char) :
    of? body behind =
      some ⟨String.ofList (Text.trimStartWhere (· == '@') tag), others.map String.ofList⟩ := by
  rw [of?, lines]
  dsimp only
  rw [if_pos (isActionLine_iff.mpr names)]

theorem of?_of_not_isTag {body : List Char}
    (untagged : ∀ first, (cleanLines body).head? = some first → ¬ IsTag first)
    (behind : List Char) :
    of? body behind = (followingMethod? behind).map fun method =>
      ⟨method, (cleanLines body).map String.ofList⟩ := by
  rw [of?]
  cases lines : cleanLines body with
  | nil => rfl
  | cons first others =>
    have plain : ¬ isActionLine first = true := fun tag =>
      untagged first (by rw [lines]; rfl) (isActionLine_iff.mp tag)
    dsimp only
    rw [if_neg plain]

/-- A comment is read as the block that it documents, and as no block if it documents none. -/
theorem of?_eq_some_iff {body behind : List Char} {block : CommentBlock} :
    of? body behind = some block ↔ Documents body behind block := by
  constructor
  · intro read
    by_cases tagged : ∃ tag others, cleanLines body = tag :: others ∧ IsTag tag
    · rcases tagged with ⟨tag, others, lines, names⟩
      rw [of?_of_isTag lines names] at read
      exact Option.some.inj read ▸ .of_isTag lines names behind
    · have untagged : ∀ first, (cleanLines body).head? = some first → ¬ IsTag first := by
        intro first head names
        rcases List.head?_eq_some_iff.mp head with ⟨others, lines⟩
        exact tagged ⟨first, others, lines, names⟩
      rw [of?_of_not_isTag untagged] at read
      rcases Option.map_eq_some_iff.mp read with ⟨method, follows, rfl⟩
      rcases followingMethod?_eq_some_iff.mp follows with ⟨line, below, declares, name⟩
      exact .declared (hasLines_iff.mpr rfl) untagged below declares name
  · intro documents
    cases documents with
    | tagged lines tag signed begins =>
      rw [of?_of_isTag (hasLines_iff.mp lines) tag behind, trimStartWhere_signs signed begins]
    | declared written untagged below declares name =>
      rcases hasLines_iff.mp written with rfl
      rw [of?_of_not_isTag untagged,
        followingMethod?_eq_some_iff.mpr ⟨_, below, declares, name⟩, Option.map_some]

end CommentBlock

/-! ## Sources with comments -/

/-- The sign that opens a comment. -/
def Comment.opening : List Char := ['/', '*', '*']

/-- The sign that closes a comment. -/
def Comment.closing : List Char := ['*', '/']

/-- A comment and the text behind it, up to the next comment. -/
structure Comment where
  body : List Char
  after : List Char
  closed : ¬ Comment.closing <:+: body
  plain : ¬ Comment.opening <:+: after

/-- The comments as they are written, with a text at the end. -/
def Comment.write : List Comment → List Char → List Char
  | [], tail => tail
  | comment :: later, tail =>
    opening ++ (comment.body ++ (closing ++ (comment.after ++ write later tail)))

/-- A text, comments, and possibly one more comment that is never closed. -/
structure CommentedText where
  before : List Char
  comments : List Comment
  unclosed : Option (List Char)
  plain : ¬ Comment.opening <:+: before
  open_ : ∀ rest ∈ unclosed, ¬ Comment.closing <:+: rest

namespace CommentedText

/-- What stands behind the last comment and its text. -/
def tail (source : CommentedText) : List Char :=
  source.unclosed.elim [] (Comment.opening ++ ·)

/-- The source as it is written. -/
def text (source : CommentedText) : List Char :=
  source.before ++ Comment.write source.comments source.tail

end CommentedText

/-- Blocks are those of comments in their order.  A comment that documents nothing is dropped, and
the others are read as if it were text. -/
inductive Gathers (tail : List Char) : List Comment → List CommentBlock → Prop where
  | done : Gathers tail [] []
  | block {comment : Comment} {later : List Comment} {block : CommentBlock}
      {blocks : List CommentBlock}
      (documents : CommentBlock.Documents comment.body (comment.after ++ Comment.write later tail)
        block)
      (rest : Gathers tail later blocks) : Gathers tail (comment :: later) (block :: blocks)
  | dropped {comment : Comment} {later : List Comment} {blocks : List CommentBlock}
      (nothing : ∀ block, ¬ CommentBlock.Documents comment.body
        (comment.after ++ Comment.write later tail) block)
      (rest : Gathers tail later blocks) : Gathers tail (comment :: later) blocks

/-! ## The scan -/

namespace Comment

theorem cut?_opening {before : List Char} (plain : ¬ opening <:+: before) (rest : List Char) :
    Text.cut? opening (before ++ (opening ++ rest)) = some (before, rest) :=
  Text.cut?_append (List.cons_ne_nil _ _)
    (Text.not_infix_append_dropLast (by decide) plain) rest

theorem cut?_closing {body : List Char} (closed : ¬ closing <:+: body) (rest : List Char) :
    Text.cut? closing (body ++ (closing ++ rest)) = some (body, rest) :=
  Text.cut?_append (List.cons_ne_nil _ _)
    (Text.not_infix_append_dropLast (by decide) closed) rest

end Comment

theorem commentBlocks_of_plain {source : List Char} (plain : ¬ Comment.opening <:+: source) :
    commentBlocks source = [] := by
  rw [commentBlocks]
  split
  next => rfl
  next found =>
    have none := Text.cut?_eq_none_iff.mpr plain
    exact absurd (found.symm.trans none) (Option.some_ne_none _)

/-- A comment that is never closed ends the source. -/
theorem commentBlocks_of_unclosed {before rest : List Char} (plain : ¬ Comment.opening <:+: before)
    (open_ : ¬ Comment.closing <:+: rest) :
    commentBlocks (before ++ (Comment.opening ++ rest)) = [] := by
  have opened := Comment.cut?_opening plain rest
  have unclosed := Text.cut?_eq_none_iff.mpr open_
  rw [commentBlocks]
  split
  next => rfl
  next found =>
    rcases Prod.mk.inj (Option.some.inj (found.symm.trans opened)) with ⟨_, rfl⟩
    split
    next => rfl
    next closed => exact absurd (closed.symm.trans unclosed) (Option.some_ne_none _)

/-- The first comment is read on its own, and the scan goes on behind it. -/
theorem commentBlocks_of_comment {before body : List Char} (plain : ¬ Comment.opening <:+: before)
    (closed : ¬ Comment.closing <:+: body) (behind : List Char) :
    commentBlocks (before ++ (Comment.opening ++ (body ++ (Comment.closing ++ behind)))) =
      (CommentBlock.of? body behind).toList ++ commentBlocks behind := by
  have opened := Comment.cut?_opening plain (body ++ (Comment.closing ++ behind))
  have closes := Comment.cut?_closing closed behind
  rw [commentBlocks]
  split
  next none => exact absurd (opened.symm.trans none) (Option.some_ne_none _)
  next found =>
    rcases Prod.mk.inj (Option.some.inj (found.symm.trans opened)) with ⟨_, rfl⟩
    split
    next none => exact absurd (closes.symm.trans none) (Option.some_ne_none _)
    next found' =>
      rcases Prod.mk.inj (Option.some.inj (found'.symm.trans closes)) with ⟨rfl, rfl⟩
      rfl

/-- Behind a text without comments, the blocks of comments are gathered in their order, if what
stands behind the comments has no block. -/
theorem commentBlocks_write_eq_iff {tail : List Char}
    (ends : ∀ before, ¬ Comment.opening <:+: before → commentBlocks (before ++ tail) = [])
    {before : List Char} (plain : ¬ Comment.opening <:+: before) (comments : List Comment)
    (blocks : List CommentBlock) :
    commentBlocks (before ++ Comment.write comments tail) = blocks ↔
      Gathers tail comments blocks := by
  induction comments generalizing before blocks with
  | nil =>
    rw [Comment.write, ends before plain]
    constructor
    · rintro rfl
      exact .done
    · intro gathers
      cases gathers
      rfl
  | cons comment later inductionHypothesis =>
    rw [Comment.write, commentBlocks_of_comment plain comment.closed]
    constructor
    · rintro rfl
      have rest := (inductionHypothesis comment.plain _).mp rfl
      cases read : CommentBlock.of? comment.body (comment.after ++ Comment.write later tail) with
      | none =>
        refine .dropped (fun block documents => ?_) rest
        exact absurd (read.symm.trans (CommentBlock.of?_eq_some_iff.mpr documents)) nofun
      | some block => exact .block (CommentBlock.of?_eq_some_iff.mp read) rest
    · intro gathers
      cases gathers with
      | block documents rest =>
        rw [CommentBlock.of?_eq_some_iff.mpr documents,
          (inductionHypothesis comment.plain _).mpr rest]
        rfl
      | dropped nothing rest =>
        have unread : CommentBlock.of? comment.body
            (comment.after ++ Comment.write later tail) = none :=
          Option.eq_none_iff_forall_ne_some.mpr fun block read =>
            nothing block (CommentBlock.of?_eq_some_iff.mp read)
        rw [unread, (inductionHypothesis comment.plain _).mpr rest]
        rfl

namespace CommentedText

theorem commentBlocks_append_tail (source : CommentedText) {before : List Char}
    (plain : ¬ Comment.opening <:+: before) : commentBlocks (before ++ source.tail) = [] := by
  unfold tail
  cases unclosed : source.unclosed with
  | none =>
    rw [Option.elim_none, List.append_nil]
    exact commentBlocks_of_plain plain
  | some rest => exact commentBlocks_of_unclosed plain (source.open_ rest unclosed)

/-- Every source is a text with comments. -/
theorem exists_text_eq (text : List Char) : ∃ source : CommentedText, source.text = text := by
  induction text using commentBlocks.induct with
  | case1 text none =>
    exact ⟨⟨text, [], .none, Text.cut?_eq_none_iff.mp none, nofun⟩, List.append_nil text⟩
  | case2 text before rest opened none =>
    refine ⟨⟨before, [], some rest, Text.not_infix_of_cut? (List.cons_ne_nil _ _) opened, ?_⟩, ?_⟩
    · rintro other ⟨⟩
      exact Text.cut?_eq_none_iff.mp none
    · exact (List.append_assoc _ _ _).symm.trans (Text.eq_append_of_cut? opened).symm
  | case3 text before rest opened body after closed shorter inductionHypothesis =>
    rcases inductionHypothesis with ⟨source, rfl⟩
    have plain : ¬ Comment.opening <:+: before :=
      Text.not_infix_of_cut? (List.cons_ne_nil _ _) opened
    have free : ¬ Comment.closing <:+: body :=
      Text.not_infix_of_cut? (List.cons_ne_nil _ _) closed
    refine ⟨⟨before, ⟨body, source.before, free, source.plain⟩ :: source.comments, source.unclosed,
      plain, source.open_⟩, ?_⟩
    have inner : rest = body ++ (Comment.closing ++ source.text) :=
      (Text.eq_append_of_cut? closed).trans (List.append_assoc _ _ _)
    have outer : text = before ++ (Comment.opening ++ rest) :=
      (Text.eq_append_of_cut? opened).trans (List.append_assoc _ _ _)
    exact (outer.trans (inner ▸ rfl)).symm

/-- Every source is a text with comments, and its blocks are those of its comments, each read once
and in their order.  A comment with a tag is the block of the action that the tag names, another
one is the block of the method declared on the first line behind it that is not blank, and a
comment with neither changes nothing.  A comment that is never closed is no block. -/
theorem commentBlocks_eq_iff_gathers (text : List Char) :
    (∃ source : CommentedText, source.text = text) ∧
      ∀ source : CommentedText, source.text = text → ∀ blocks,
        commentBlocks text = blocks ↔ Gathers source.tail source.comments blocks := by
  refine ⟨exists_text_eq text, ?_⟩
  rintro source rfl blocks
  exact commentBlocks_write_eq_iff (fun _ plain => source.commentBlocks_append_tail plain)
    source.plain source.comments blocks

/-- A controller with a tag, a method, a statement, and a comment that is never closed. -/
def postsController : CommentedText where
  before := "class PostsController \x7b\n  ".toList
  comments :=
    [⟨"\n   * @@index\r\n   *\n\n   *\t** List posts \n\t@summary All  posts\n   ".toList,
      "\n  async list() \x7b\x7d\n  ".toList,
      Text.cut?_eq_none_iff.mp (by decide +kernel), Text.cut?_eq_none_iff.mp (by decide +kernel)⟩,
     ⟨"\n   * Shown with * its author\n   * @operationId show\n   ".toList,
      "\n\n  public async show<T>(ctx) \x7b\n    ".toList,
      Text.cut?_eq_none_iff.mp (by decide +kernel), Text.cut?_eq_none_iff.mp (by decide +kernel)⟩,
     ⟨" Checked first ".toList, "\n    if (ctx.ok) \x7b\x7d\n  \x7d\n  ".toList,
      Text.cut?_eq_none_iff.mp (by decide +kernel), Text.cut?_eq_none_iff.mp (by decide +kernel)⟩]
  unclosed := some "\n   * @store\n\x7d".toList
  plain := Text.cut?_eq_none_iff.mp (by decide +kernel)
  open_ := by
    rintro rest ⟨⟩
    exact Text.cut?_eq_none_iff.mp (by decide +kernel)

theorem commentBlocks_postsController :
    commentBlocks postsController.text =
        [⟨"index", ["** List posts", "@summary All  posts"]⟩,
          ⟨"show", ["Shown with * its author", "@operationId show"]⟩] ∧
      Gathers postsController.tail postsController.comments
        [⟨"index", ["** List posts", "@summary All  posts"]⟩,
          ⟨"show", ["Shown with * its author", "@operationId show"]⟩] := by
  have blocks : commentBlocks postsController.text =
      [⟨"index", ["** List posts", "@summary All  posts"]⟩,
        ⟨"show", ["Shown with * its author", "@operationId show"]⟩] := by
    decide +kernel
  exact ⟨blocks, ((commentBlocks_eq_iff_gathers _).2 postsController rfl _).mp blocks⟩

end CommentedText
end Routebook
