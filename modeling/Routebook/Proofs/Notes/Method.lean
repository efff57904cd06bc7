import Routebook.Notes.Block
import Routebook.Proofs.Text.Class
import Routebook.Proofs.Text.Pieces

namespace Routebook
namespace CommentBlock

/-!
# Declared methods

The line below a comment block may declare the method that the block documents.  `Declares` says
what such a line looks like: modifiers, then a name, then an opening parenthesis.  A modifier may
also be the name, so reading from the left is not settled by the first word.  It is settled by
what follows: behind a modifier stands another word, behind a name type parameters or a
parenthesis.

The reader tries modifiers first and goes back if that fails.  It reads exactly the declared
names, and a line declares at most one.
-/

/-! ## Declarations -/

/-- An opening parenthesis, which type parameters may precede. -/
inductive OpensCall : List Char → Prop where
  | plain (arguments : List Char) : OpensCall ('(' :: arguments)
  | generic {parameters blanks : List Char} (unclosed : '>' ∉ parameters)
      (blank : ∀ c ∈ blanks, Text.isBlank c = true) (arguments : List Char) :
      OpensCall ('<' :: (parameters ++ '>' :: (blanks ++ '(' :: arguments)))

/-- A line that declares the method with a name. -/
inductive Declares : List Char → String → Prop where
  | called {first : Char} {others blanks behind : List Char} (start : isMethodStart first = true)
      (word : ∀ c ∈ others, isMethodChar c = true) (blank : ∀ c ∈ blanks, Text.isBlank c = true)
      (opens : OpensCall behind) :
      Declares (first :: others ++ (blanks ++ behind)) (String.ofList (first :: others))
  | modified {modifier name : String} {blanks line : List Char} (known : modifier ∈ modifiers)
      (apart : blanks ≠ []) (blank : ∀ c ∈ blanks, Text.isBlank c = true)
      (declares : Declares line name) : Declares (modifier.toList ++ (blanks ++ line)) name

/-! ## Words -/

theorem isMethodChar_of_isMethodStart {c : Char} (start : isMethodStart c = true) :
    isMethodChar c = true := by
  unfold isMethodStart at start
  unfold isMethodChar
  simp only [Bool.or_eq_true, beq_iff_eq] at start ⊢
  rcases start with (letter | rfl) | rfl
  · left
    change (decide (65 ≤ c.val ∧ c.val ≤ 90) ||
      decide (97 ≤ c.val) && decide (c.val ≤ 122)) = true at letter
    simp only [Bool.or_eq_true, Bool.and_eq_true, decide_eq_true_eq,
      UInt32.le_iff_toNat_le] at letter
    change (65 ≤ c.toNat ∧ c.toNat ≤ 90) ∨ (97 ≤ c.toNat ∧ c.toNat ≤ 122) at letter
    unfold Text.isWord Text.isAsciiAlphanumeric
    rw [if_pos (by omega)]
    simp only [Bool.or_eq_true, Bool.and_eq_true, decide_eq_true_eq]
    omega
  · exact Or.inl (by decide)
  · exact Or.inr rfl

theorem isMethodChar_of_isBlank {c : Char} (blank : Text.isBlank c = true) :
    isMethodChar c = false := by
  unfold isMethodChar
  rw [Text.isWord_of_isBlank blank, Bool.false_or, beq_eq_false_iff_ne]
  rintro rfl
  exact absurd blank (by decide)

theorem isMethodChar_of_mem_modifiers :
    ∀ modifier ∈ modifiers, ∀ c ∈ modifier.toList, isMethodChar c = true := by
  have words : ∀ modifier ∈ modifiers, modifier.toList.all isMethodChar = true := by
    decide
  exact fun modifier known => List.all_eq_true.mp (words modifier known)

/-- What follows a name and blanks ends the word and the blanks. -/
theorem OpensCall.head {behind : List Char} (opens : OpensCall behind) :
    ∀ c, behind.head? = some c → isMethodChar c = false ∧ Text.isBlank c = false := by
  intro c first
  cases opens with
  | plain =>
    rcases Option.some.inj first with rfl
    decide
  | generic =>
    rcases Option.some.inj first with rfl
    decide

/-- A declaration begins with the start of a word. -/
theorem Declares.head {line : List Char} {name : String} (declares : Declares line name) :
    ∃ c rest, line = c :: rest ∧ isMethodStart c = true := by
  cases declares with
  | called start => exact ⟨_, _, rfl, start⟩
  | modified known =>
    have starts : ∀ modifier ∈ modifiers, ∃ c rest, modifier.toList = c :: rest ∧
        isMethodStart c = true := by
      intro modifier member
      simp only [modifiers, List.mem_cons, List.not_mem_nil, or_false] at member
      rcases member with rfl | rfl | rfl | rfl | rfl | rfl <;> exact ⟨_, _, rfl, rfl⟩
    rcases starts _ known with ⟨c, rest, shape, start⟩
    rw [shape]
    exact ⟨c, _, rfl, start⟩

theorem Declares.isBlank_head {line : List Char} {name : String} (declares : Declares line name) :
    ∀ c, line.head? = some c → Text.isBlank c = false := by
  intro c first
  rcases declares.head with ⟨other, rest, rfl, start⟩
  rcases Option.some.inj first with rfl
  by_contra blank
  have noWord := isMethodChar_of_isBlank (Bool.not_eq_false _ ▸ blank)
  exact Bool.false_ne_true (noWord.symm.trans (isMethodChar_of_isMethodStart start))

/-- The word at the start of a line, and what stands behind the blanks behind it. -/
theorem word_inj {word other blanks blanks' behind behind' : List Char}
    (isWord : ∀ c ∈ word, isMethodChar c = true) (isWord' : ∀ c ∈ other, isMethodChar c = true)
    (blank : ∀ c ∈ blanks, Text.isBlank c = true) (blank' : ∀ c ∈ blanks', Text.isBlank c = true)
    (stop : ∀ c, (blanks ++ behind).head? = some c → isMethodChar c = false)
    (stop' : ∀ c, (blanks' ++ behind').head? = some c → isMethodChar c = false)
    (solid : ∀ c, behind.head? = some c → Text.isBlank c = false)
    (solid' : ∀ c, behind'.head? = some c → Text.isBlank c = false)
    (same : word ++ (blanks ++ behind) = other ++ (blanks' ++ behind')) :
    word = other ∧ behind = behind' := by
  have first := Text.span_append isWord stop
  have second := Text.span_append isWord' stop'
  rw [same] at first
  have rest : blanks ++ behind = blanks' ++ behind' := first.2.symm.trans second.2
  have left := (Text.span_append blank solid).2
  rw [rest] at left
  exact ⟨first.1.symm.trans second.1, left.symm.trans (Text.span_append blank' solid').2⟩

/-- Blanks end a word, whatever stands behind them. -/
theorem stop_of_blanks {blanks : List Char} (apart : blanks ≠ [])
    (blank : ∀ c ∈ blanks, Text.isBlank c = true) (behind : List Char) :
    ∀ c, (blanks ++ behind).head? = some c → isMethodChar c = false := by
  intro c first
  rcases List.exists_cons_of_ne_nil apart with ⟨space, others, rfl⟩
  rcases Option.some.inj first with rfl
  exact isMethodChar_of_isBlank (blank space List.mem_cons_self)

theorem OpensCall.stop {blanks behind : List Char} (opens : OpensCall behind)
    (blank : ∀ c ∈ blanks, Text.isBlank c = true) :
    ∀ c, (blanks ++ behind).head? = some c → isMethodChar c = false := by
  by_cases apart : blanks = []
  · rw [apart]
    exact fun c head => (opens.head c head).1
  · exact stop_of_blanks apart blank behind

/-! ## Reading a name -/

/-- What stands behind a name opens a call if a parenthesis is left when the type parameters
are skipped. -/
theorem opensCall_iff {behind : List Char}
    (solid : ∀ c, behind.head? = some c → Text.isBlank c = false) :
    OpensCall behind ↔ (Text.trimStart (skipTypeParameters behind)).head? = some '(' := by
  have noBlank : ∀ c ∈ ([] : List Char), Text.isBlank c = true := nofun
  have start : Text.trimStart behind = behind := (Text.span_append noBlank solid).2
  constructor
  · intro opens
    cases opens with
    | plain => rfl
    | generic unclosed blank arguments =>
      have stop : ∀ c, ('(' :: arguments).head? = some c → Text.isBlank c = false := by
        rintro c ⟨⟩
        decide
      have dropped := (Text.span_append blank stop).2
      rw [skipTypeParameters, Text.cutAt?_append_cons unclosed]
      change (List.dropWhile _ _).head? = _
      rw [dropped]
      rfl
  · intro called
    unfold skipTypeParameters at called
    split at called
    next rest =>
      cases cut : Text.cutAt? '>' rest with
      | none =>
        rw [cut] at called
        rw [start] at called
        cases called
      | some parts =>
        rw [cut] at called
        rcases Text.exists_span Text.isBlank parts.2 with
          ⟨blanks, behind, whole, blank, _, _, dropped⟩
        change (List.dropWhile _ _).head? = _ at called
        rw [dropped] at called
        rcases List.head?_eq_some_iff.mp called with ⟨arguments, rfl⟩
        rw [Text.eq_append_of_cutAt? cut, whole]
        exact .generic (Text.not_mem_of_cutAt? cut) blank arguments
    next =>
      rw [start] at called
      rcases List.head?_eq_some_iff.mp called with ⟨arguments, rfl⟩
      exact .plain arguments

theorem calledName?_eq_some_iff {line : List Char} {name : String} :
    calledName? line = some name ↔ ∃ first others blanks behind,
      line = first :: others ++ (blanks ++ behind) ∧ name = String.ofList (first :: others) ∧
        isMethodStart first = true ∧ (∀ c ∈ others, isMethodChar c = true) ∧
        (∀ c ∈ blanks, Text.isBlank c = true) ∧ OpensCall behind := by
  constructor
  · intro found
    cases line with
    | nil => cases found
    | cons first rest =>
      rcases Text.exists_span isMethodChar rest with ⟨others, tail, shape, word, _, taken, left⟩
      rcases Text.exists_span Text.isBlank tail with
        ⟨blanks, behind, shape', blank, solid, _, left'⟩
      have start : Text.trimStart tail = behind := left'
      unfold calledName? at found
      dsimp only at found
      rw [taken, left, start] at found
      split at found
      next begins =>
        split at found
        next opens =>
          have called : OpensCall behind := (opensCall_iff solid).mpr (beq_iff_eq.mp opens)
          exact ⟨first, others, blanks, behind, by rw [shape, shape']; rfl,
            (Option.some.inj found).symm, begins, word, blank, called⟩
        · cases found
      · cases found
  · rintro ⟨first, others, blanks, behind, rfl, rfl, start, word, blank, opens⟩
    have solid : ∀ c, behind.head? = some c → Text.isBlank c = false := fun c head =>
      (opens.head c head).2
    have spanned := Text.span_append word (opens.stop blank)
    have dropped : Text.trimStart (blanks ++ behind) = behind := (Text.span_append blank solid).2
    rw [List.cons_append, calledName?, if_pos start]
    dsimp only
    rw [spanned.1, spanned.2, dropped, (opensCall_iff solid).mp opens]
    rfl

/-! ## Reading modifiers -/

/-- A word stands in front of the rest of a text, with blanks behind it. -/
inductive Precedes (word rest : List Char) : List Char → Prop where
  | parted {blanks : List Char} (apart : blanks ≠ []) (blank : ∀ c ∈ blanks, Text.isBlank c = true)
      (solid : ∀ c, rest.head? = some c → Text.isBlank c = false) :
      Precedes word rest (word ++ (blanks ++ rest))

theorem afterKeyword?_eq_some_iff {keyword : String} {text rest : List Char} :
    afterKeyword? keyword text = some rest ↔ Precedes keyword.toList rest text := by
  unfold afterKeyword?
  constructor
  · intro found
    rcases Option.bind_eq_some_iff.mp found with ⟨tail, stripped, followed⟩
    rcases Text.exists_span Text.isBlank tail with ⟨blanks, behind, shape, blank, solid, _, left⟩
    split at followed
    next begins =>
      have same : behind = rest := left.symm.trans (Option.some.inj followed)
      have apart : blanks ≠ [] := by
        rintro rfl
        rcases (Option.any_eq_true _ _).mp begins with ⟨c, head, isBlank⟩
        rw [shape] at head
        exact Bool.false_ne_true ((solid c head).symm.trans isBlank)
      rw [Text.stripStart?_eq_some_iff.mp stripped, shape, ← same]
      exact .parted apart blank solid
    · cases followed
  · rintro @⟨blanks, apart, blank, solid⟩
    have stripped : Text.stripStart? keyword.toList (keyword.toList ++ (blanks ++ rest)) =
        some (blanks ++ rest) := Text.stripStart?_eq_some_iff.mpr rfl
    have dropped : Text.trimStart (blanks ++ rest) = rest := (Text.span_append blank solid).2
    rcases List.exists_cons_of_ne_nil apart with ⟨space, others, rfl⟩
    rw [stripped]
    refine (if_pos ?_).trans (congrArg some dropped)
    exact blank space List.mem_cons_self

/-- Only one text is preceded by a word of a line. -/
theorem Precedes.unique {word other text rest rest' : List Char}
    (isWord : ∀ c ∈ word, isMethodChar c = true) (isWord' : ∀ c ∈ other, isMethodChar c = true)
    (precedes : Precedes word rest text) (precedes' : Precedes other rest' text) :
    rest = rest' := by
  generalize whole : text = line at precedes'
  cases precedes with
  | parted apart blank solid =>
    cases precedes' with
    | parted apart' blank' solid' =>
      exact (word_inj isWord isWord' blank blank' (stop_of_blanks apart blank rest)
        (stop_of_blanks apart' blank' rest') solid solid' whole).2

theorem OpensCall.eq_of_precedes {word other blanks behind rest : List Char}
    (opens : OpensCall behind) (isWord : ∀ c ∈ word, isMethodChar c = true)
    (blank : ∀ c ∈ blanks, Text.isBlank c = true) (isWord' : ∀ c ∈ other, isMethodChar c = true)
    (precedes : Precedes other rest (word ++ (blanks ++ behind))) : behind = rest := by
  generalize whole : word ++ (blanks ++ behind) = line at precedes
  cases precedes with
  | parted apart blank' solid =>
    have solid' : ∀ c, behind.head? = some c → Text.isBlank c = false := fun c head =>
      (opens.head c head).2
    exact (word_inj isWord isWord' blank blank' (opens.stop blank)
      (stop_of_blanks apart blank' rest) solid' solid whole).2

theorem afterModifier?_eq_some_iff {text rest : List Char} :
    afterModifier? text = some rest ↔
      ∃ modifier ∈ modifiers, Precedes modifier.toList rest text := by
  have sound : ∀ {other}, afterModifier? text = some other →
      ∃ modifier ∈ modifiers, Precedes modifier.toList other text := by
    intro other found
    rcases List.exists_of_findSome?_eq_some found with ⟨modifier, known, after⟩
    exact ⟨modifier, known, afterKeyword?_eq_some_iff.mp after⟩
  constructor
  · exact sound
  · rintro ⟨modifier, known, precedes⟩
    have read : (afterModifier? text).isSome = true := by
      apply List.findSome?_isSome_iff.mpr
      refine ⟨modifier, known, ?_⟩
      rw [afterKeyword?_eq_some_iff.mpr precedes]
      rfl
    rcases Option.isSome_iff_exists.mp read with ⟨other, found⟩
    rcases sound found with ⟨modifier', known', precedes'⟩
    have same : other = rest := precedes'.unique (isMethodChar_of_mem_modifiers modifier' known')
      (isMethodChar_of_mem_modifiers modifier known) precedes
    rw [found, same]

/-! ## Reading a line -/

theorem declares_of_methodName? {budget : Nat} {line : List Char} {name : String}
    (found : methodName? budget line = some name) : Declares line name := by
  have called : ∀ line, calledName? line = some name → Declares line name := by
    intro line read
    rcases calledName?_eq_some_iff.mp read with
      ⟨first, others, blanks, behind, rfl, rfl, start, word, blank, opens⟩
    exact .called start word blank opens
  induction budget generalizing line with
  | zero => exact called line found
  | succ budget inductionHypothesis =>
    rw [methodName?] at found
    split at found
    next other modified =>
      rcases Option.some.inj found with rfl
      rcases Option.bind_eq_some_iff.mp modified with ⟨rest, after, read⟩
      rcases afterModifier?_eq_some_iff.mp after with ⟨modifier, known, ⟨apart, blank, -⟩⟩
      exact .modified known apart blank (inductionHypothesis read)
    next => exact called line found

/-- Every declared name is read if the budget is as long as the line. -/
theorem methodName?_of_declares {budget : Nat} {line : List Char} {name : String}
    (declares : Declares line name) (enough : line.length ≤ budget) :
    methodName? budget line = some name := by
  induction declares generalizing budget with
  | @called first others blanks behind start word blank opens =>
    have read : calledName? (first :: others ++ (blanks ++ behind)) =
        some (String.ofList (first :: others)) :=
      calledName?_eq_some_iff.mpr
        ⟨first, others, blanks, behind, rfl, rfl, start, word, blank, opens⟩
    cases budget with
    | zero => exact read
    | succ budget =>
      rw [methodName?]
      split
      next other modified =>
        -- Behind a modifier stands a word, and behind a name that is called none does.
        exfalso
        rcases Option.bind_eq_some_iff.mp modified with ⟨rest, after, further⟩
        have declared : Declares rest other := declares_of_methodName? further
        rcases afterModifier?_eq_some_iff.mp after with ⟨modifier, known, precedes⟩
        have isWord : ∀ c ∈ first :: others, isMethodChar c = true := by
          intro c member
          rcases List.mem_cons.mp member with rfl | later
          · exact isMethodChar_of_isMethodStart start
          · exact word c later
        have same := opens.eq_of_precedes isWord blank
          (isMethodChar_of_mem_modifiers modifier known) precedes
        rcases declared.head with ⟨c, tail, rfl, begins⟩
        have stops := (opens.head c (by rw [same]; rfl)).1
        exact Bool.false_ne_true (stops.symm.trans (isMethodChar_of_isMethodStart begins))
      next => exact read
  | @modified modifier name blanks line known apart blank declares inductionHypothesis =>
    have after : afterModifier? (modifier.toList ++ (blanks ++ line)) = some line :=
      afterModifier?_eq_some_iff.mpr ⟨modifier, known, .parted apart blank declares.isBlank_head⟩
    have shorter : line.length < budget := by
      have positive := List.length_pos_iff.mpr apart
      simp only [List.length_append] at enough
      omega
    cases budget with
    | zero => exact absurd shorter (Nat.not_lt_zero _)
    | succ budget =>
      rw [methodName?, after, Option.bind_some,
        inductionHypothesis (Nat.le_of_lt_succ shorter)]

theorem methodName?_eq_some_iff {line : List Char} {name : String} :
    methodName? line.length line = some name ↔ Declares line name :=
  ⟨declares_of_methodName?, fun declares => methodName?_of_declares declares (Nat.le_refl _)⟩

/-- The method that follows a block is declared by the first line that is not blank, and its name
is no keyword. -/
theorem followingMethod?_eq_some_iff {text : List Char} {name : String} :
    followingMethod? text = some name ↔
      ∃ line, Text.firstLine? text = some line ∧ Declares line name ∧ name ∉ reserved := by
  have kept : ∀ read : Option String,
      (read.bind fun name => if reserved.contains name then none else some name) = some name ↔
        read = some name ∧ name ∉ reserved := by
    intro read
    cases read with
    | none => simp
    | some other =>
      rw [Option.bind_some]
      by_cases keyword : other ∈ reserved
      · simp only [List.contains_iff_mem, keyword, if_true]
        constructor
        · nofun
        · rintro ⟨⟨⟩, free⟩
          exact absurd keyword free
      · simp only [List.contains_iff_mem, keyword, if_false, Option.some.injEq]
        constructor
        · rintro rfl
          exact ⟨rfl, keyword⟩
        · exact And.left
  unfold followingMethod?
  dsimp only [bind]
  rw [kept, methodName?_eq_some_iff, Text.firstLine?_eq]
  split
  next empty =>
    rw [empty]
    constructor
    · rintro ⟨declares, _⟩
      rcases declares.head with ⟨_, _, shape, _⟩
      cases shape
    · rintro ⟨_, ⟨⟩, _⟩
  next =>
    constructor
    · rintro ⟨declares, free⟩
      exact ⟨_, rfl, declares, free⟩
    · rintro ⟨_, ⟨⟩, declares, free⟩
      exact ⟨declares, free⟩

end CommentBlock
end Routebook
