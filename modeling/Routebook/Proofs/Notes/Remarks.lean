import Routebook.Notes.Directive
import Routebook.Proofs.Token

namespace Routebook

/-!
# What is left beside the tokens

A token is looked for twice.  The reader asks for an opening that begins no later part of a
word; whoever removes tokens asks for an opening alone, and takes away what stands from there to
the next closing parenthesis.  So a word that ends like the name of a token can lose its end
although nothing is read from the line.

`Token.remove_eq_self_iff` says when a line stays as it is, whatever is read from it: no opening
may be closed behind it.  A line only ever loses characters, so the removals of several names
leave a line alone exactly if each of them does.
-/

namespace Token

/-- A token of the name begins on the line: its opening stands there and continues no word. -/
def Begins (name : String) (line : List Char) : Prop :=
  ∃ before after, line = before ++ (opening name ++ after) ∧ isBoundary before.getLast? = true

/-- The opening of a token of the name stands on the line, at any place, with a closing
parenthesis somewhere behind it. -/
def Closes (name : String) (line : List Char) : Prop :=
  ∃ before after, line = before ++ (opening name ++ after) ∧ ')' ∈ after

/-- Where a needle occurs is told by the number of characters in front of it. -/
theorem exists_occurrence_iff {needle line : List Char} {P : List Char → List Char → Prop} :
    (∃ before after, line = before ++ (needle ++ after) ∧ P before after) ↔
      ∃ place < line.length + 1, needle <+: line.drop place ∧
        P (line.take place) ((line.drop place).drop needle.length) := by
  constructor
  · rintro ⟨before, after, rfl, holds⟩
    have inside : before.length < (before ++ (needle ++ after)).length + 1 := by
      rw [List.length_append]
      omega
    refine ⟨before.length, inside, ?_, ?_⟩
    · rw [List.drop_left]
      exact List.prefix_append needle after
    · rwa [List.take_left, List.drop_left, List.drop_left]
  · rintro ⟨place, -, ⟨after, begins⟩, holds⟩
    refine ⟨line.take place, after, ?_, ?_⟩
    · rw [begins, List.take_append_drop]
    · rwa [← begins, List.drop_left] at holds

instance (name : String) (line : List Char) : Decidable (Begins name line) :=
  decidable_of_iff _ exists_occurrence_iff.symm

instance (name : String) (line : List Char) : Decidable (Closes name line) :=
  decidable_of_iff _ exists_occurrence_iff.symm

/-! ## Reading -/

section Names

variable {name : String} {line : List Char}

/-- An opening within a word is passed over. -/
theorem rawValue?_of_not_isBoundary {previous : Option Char} {before after : List Char}
    (found : Text.cut? (opening name) line = some (before, after))
    (inside : isBoundary (before.getLast?.or previous) = false) :
    rawValue? (opening name) previous line = rawValue? (opening name) (some '(') after := by
  rw [rawValue?_of_found found, if_neg (Bool.eq_false_iff.mp inside)]

/-- Nothing is read where no token begins.  What stands behind an opening is searched with the
parenthesis of the opening in front of it, as it stands in front of it on the line. -/
theorem rawValue?_eq_none {previous : Option Char}
    (inside : ∀ before after, line = before ++ (opening name ++ after) →
      isBoundary (before.getLast?.or previous) = false) :
    rawValue? (opening name) previous line = none := by
  induction length : line.length using Nat.strong_induction_on generalizing previous line with
  | _ count inductionHypothesis =>
    cases found : Text.cut? (opening name) line with
    | none =>
      rw [rawValue?]
      split
      next => rfl
      next other => exact absurd (other.symm.trans found) (Option.some_ne_none _)
    | some parts =>
      rcases parts with ⟨before, after⟩
      have whole : line = before ++ (opening name ++ after) := by
        rw [Text.eq_append_of_cut? found, List.append_assoc]
      have shorter : after.length < count := by
        simp only [← length, whole, opening, List.length_append, List.length_cons]
        omega
      rw [rawValue?_of_not_isBoundary found (inside before after whole)]
      refine inductionHypothesis after.length shorter ?_ rfl
      intro front behind split
      have later := inside (before ++ (opening name ++ front)) behind (by rw [whole, split]; simp)
      have last : (before ++ (opening name ++ front)).getLast? =
          front.getLast?.or (some '(') := by
        simp [opening, List.getLast?_append, List.getLast?_cons]
      rwa [last, Option.or_assoc, Option.some_or] at later

theorem value_of_not_begins (none : ¬ Begins name line) : value name line = [] := by
  have inside : ∀ before after, line = before ++ (opening name ++ after) →
      isBoundary (before.getLast?.or Option.none) = false := by
    intro before after whole
    rw [Option.or_none, Bool.eq_false_iff]
    exact fun boundary => none ⟨before, after, whole, boundary⟩
  rw [value, rawValue?_eq_none inside]

/-! ## Removing -/

theorem dropPoint_sublist (text : List Char) : (dropPoint text).Sublist text := by
  unfold dropPoint
  cases stripped : Text.stripEnd? ['.'] text with
  | none => exact List.Sublist.refl text
  | some rest =>
    rw [Option.getD_some]
    conv_rhs => rw [Text.stripEnd?_eq_some_iff.mp stripped]
    exact List.sublist_append_left rest ['.']

/-- A line only loses characters. -/
theorem removeOpening_sublist (name : String) (line : List Char) :
    (removeOpening (opening name) line).Sublist line := by
  induction line using removeOpening.induct (opening name) with
  | case1 line absent =>
    rw [removeOpening_of_absent (Text.cut?_eq_none_iff.mp absent)]
  | case2 line before after found unclosed =>
    rw [removeOpening_of_unclosed found unclosed]
  | case3 line before after found token rest closed shorter inductionHypothesis =>
    rw [removeOpening_of_closed found closed, Text.eq_append_of_cut? found]
    rw [List.append_assoc]
    obtain ⟨mark, -, whole⟩ := Text.eq_append_of_cutWhere? closed
    have kept : rest.Sublist (opening name ++ after) := by
      rw [whole]
      exact (List.sublist_cons_self mark rest).trans (List.sublist_append_right token _)
    exact inductionHypothesis.trans ((dropPoint_sublist before).append kept)

/-- A line stays as it is exactly if no opening is closed behind it, wherever the opening
stands. -/
theorem removeOpening_eq_self_iff (plain : ')' ∉ name.toList) :
    removeOpening (opening name) line = line ↔ ¬ Closes name line := by
  have open_plain : ')' ∉ opening name := by
    simp [opening, plain]
  cases found : Text.cut? (opening name) line with
  | none =>
    have absent := Text.cut?_eq_none_iff.mp found
    refine iff_of_true (removeOpening_of_absent absent) ?_
    rintro ⟨before, after, rfl, -⟩
    exact absent ((List.prefix_append _ after).isInfix.trans (List.suffix_append before _).isInfix)
  | some parts =>
    rcases parts with ⟨before, after⟩
    have whole : line = before ++ (opening name ++ after) := by
      rw [Text.eq_append_of_cut? found, List.append_assoc]
    cases closed : Text.cutAt? ')' (opening name ++ after) with
    | none =>
      refine iff_of_true (removeOpening_of_unclosed found closed) ?_
      -- What follows a later opening ends what follows the first one.
      rintro ⟨front, behind, rfl, closes⟩
      have later := Text.suffix_of_cut? (opening_ne_nil name) found
      have free := Text.cutAt?_eq_none_iff.mp closed
      exact free (List.mem_append_right _ (later.subset closes))
    | some inner =>
      rcases inner with ⟨token, rest⟩
      refine iff_of_false ?_ ?_
      · intro same
        have shorter := length_lt_of_token found closed
        have kept := (removeOpening_sublist name (dropPoint before ++ rest)).length_le
        rw [← removeOpening_of_closed found closed, same] at kept
        omega
      · have held := Text.eq_append_of_cutAt? closed
        refine not_not.mpr ⟨before, after, whole, ?_⟩
        have member : ')' ∈ opening name ++ after := by
          rw [held]
          simp
        exact (List.mem_append.mp member).resolve_left open_plain

end Names

/-- A line only loses characters, whatever the names are. -/
theorem remove_sublist (names : List String) (line : List Char) :
    (remove names line).Sublist line := by
  induction names generalizing line with
  | nil => exact List.Sublist.refl line
  | cons name names inductionHypothesis =>
    exact (inductionHypothesis _).trans (removeOpening_sublist name line)

/-- The removals of several names leave a line alone exactly if each of them does, because no
removal brings back what another one took away. -/
theorem remove_eq_self_iff {names : List String} {line : List Char}
    (plain : ∀ name ∈ names, ')' ∉ name.toList) :
    remove names line = line ↔ ∀ name ∈ names, ¬ Closes name line := by
  induction names with
  | nil => simp [remove]
  | cons name names inductionHypothesis =>
    have others := inductionHypothesis fun other member =>
      plain other (List.mem_cons_of_mem name member)
    have first : removeOpening (opening name) line = line ↔ ¬ Closes name line :=
      removeOpening_eq_self_iff (plain name List.mem_cons_self)
    rw [List.forall_mem_cons, ← others, ← first]
    have unfolded : remove (name :: names) line =
        remove names (removeOpening (opening name) line) := rfl
    rw [unfolded]
    constructor
    · intro same
      have here : removeOpening (opening name) line = line := by
        apply (removeOpening_sublist name line).eq_of_length_le
        have longer := (remove_sublist names (removeOpening (opening name) line)).length_le
        rwa [same] at longer
      exact ⟨here, by rwa [here] at same⟩
    · rintro ⟨here, rest⟩
      rw [here, rest]

end Token

namespace Directive

open Token

/-! ## Descriptions -/

/-- A reference comes from its brackets, with what is left beside it. -/
theorem referencePayload?_of_splitPayload {text : List Char} {reference description : String}
    {filter : Filter} (split : splitPayload text = (.reference reference filter, description)) :
    referencePayload? text = some (.reference reference filter, description) := by
  rw [splitPayload, Option.getD_eq_iff] at split
  rcases split with chosen | ⟨-, none⟩
  · rcases Option.or_eq_some_iff.mp chosen with example_ | ⟨-, found⟩
    · split at example_
      next =>
        obtain ⟨fragment, -, same⟩ := Option.bind_eq_some_iff.mp example_
        cases same
      next => cases example_
    · exact found
  · cases none

/-- Where no token begins, nothing is read, and the filter of a reference says nothing.  The line
stays as it is exactly if no opening within a word is closed behind it; otherwise it loses
characters, and so does the description beside a reference. -/
theorem unread_lines_kept_unless_closed (names : List String) (line : List Char) :
    ((∀ name ∈ names, ')' ∉ name.toList) → (∀ name ∈ names, ¬ Begins name line) →
      (∀ name ∈ names, value name line = []) ∧ (remove names line).Sublist line ∧
        (remove names line = line ↔ ∀ name ∈ names, ¬ Closes name line)) ∧
    ∀ (reference description : String) (filter : Filter),
      (∀ name ∈ filterTokens, ¬ Begins name line) →
      splitPayload line = (.reference reference filter, description) →
        filter = .blank ∧
          description = String.ofList
            (cleanDescription (withoutAngles (remove filterTokens line))) ∧
          ((∀ name ∈ filterTokens, ¬ Closes name line) →
            description = String.ofList (cleanDescription (withoutAngles line))) := by
  have unread : ∀ names : List String, (∀ name ∈ names, ¬ Begins name line) →
      ∀ name ∈ names, value name line = [] :=
    fun names none name member => value_of_not_begins (none name member)
  refine ⟨fun plain none => ?_, fun reference description filter none split => ?_⟩
  · exact ⟨unread names none, remove_sublist names line, remove_eq_self_iff plain⟩
  · have empty := unread filterTokens none
    have plain : ∀ name ∈ filterTokens, ')' ∉ name.toList := by
      decide +kernel
    have blank : Filter.ofLine line = .blank := by
      rw [Filter.ofLine, listValue, empty "with" (by decide), listValue,
        empty "exclude" (by decide), listValue, empty "only" (by decide),
        empty "append" (by decide)]
      rfl
    have found := referencePayload?_of_splitPayload split
    obtain ⟨name, -, same⟩ := Option.bind_eq_some_iff.mp found
    rcases Prod.mk.inj (Option.some.inj same) with ⟨payload, rfl⟩
    rcases Payload.reference.inj payload with ⟨-, rfl⟩
    refine ⟨blank, rfl, fun unclosed => ?_⟩
    rw [(remove_eq_self_iff plain).mpr unclosed]

/-- The end of a word is not closed, and the description beside the reference is whole. -/
theorem unread_lines_kept_startswith :
    (∀ name ∈ filterTokens, ¬ Begins name "Names that startswith(a <User>".toList) ∧
      (∀ name ∈ filterTokens, ¬ Closes name "Names that startswith(a <User>".toList) ∧
      remove filterTokens "Names that startswith(a <User>".toList =
        "Names that startswith(a <User>".toList ∧
      splitPayload "Names that startswith(a <User>".toList =
        (.reference "User" .blank, "Names that startswith(a") ∧
      "Names that startswith(a" = String.ofList
        (cleanDescription (withoutAngles "Names that startswith(a <User>".toList)) := by
  have plain : ∀ name ∈ filterTokens, ')' ∉ name.toList := by
    decide +kernel
  have none : ∀ name ∈ filterTokens, ¬ Begins name "Names that startswith(a <User>".toList := by
    decide +kernel
  have unclosed : ∀ name ∈ filterTokens,
      ¬ Closes name "Names that startswith(a <User>".toList := by
    decide +kernel
  have split : splitPayload "Names that startswith(a <User>".toList =
      (.reference "User" .blank, "Names that startswith(a") := by
    decide +kernel
  have kept := unread_lines_kept_unless_closed filterTokens
    "Names that startswith(a <User>".toList
  have line := kept.1 plain none
  have payload := kept.2 _ _ _ none split
  exact ⟨none, unclosed, line.2.2.mpr unclosed, split, payload.2.2 unclosed⟩

/-- The name of a token at the end of a word is taken away with what is in parentheses behind it,
and the description beside a reference loses both. -/
theorem startswith_loses_its_end :
    (¬ ∀ (names : List String) (line : List Char),
      (∀ name ∈ names, ∀ c ∈ name.toList, c.isAlpha = true) →
      (∀ name ∈ names, ¬ Begins name line) → remove names line = line) ∧
    remove ["with"] "startswith(a) users".toList = "starts users".toList ∧
    splitPayload "<User> - startswith(a) users".toList =
      (.reference "User" .blank, "starts users") := by
  refine ⟨fun kept => ?_, by decide +kernel, by decide +kernel⟩
  have letters : ∀ name ∈ ["with"], ∀ c ∈ name.toList, c.isAlpha = true := by
    intro name member
    rw [List.mem_singleton.mp member]
    exact List.all_eq_true.mp (show "with".toList.all Char.isAlpha = true by decide +kernel)
  have same := kept ["with"] "startswith(a) users".toList letters (by decide +kernel)
  exact absurd same (by decide +kernel)

end Directive
end Routebook
