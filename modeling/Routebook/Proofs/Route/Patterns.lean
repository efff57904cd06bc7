import Routebook.Proofs.Document.Placeholders

namespace Routebook
namespace Route

/-!
# Patterns are recovered

The document writes a pattern without its colons and question marks, and lists its parameters
beside the path.  Together they still hold the whole pattern: a segment in braces stands for the
next parameter, whose name and whether it is required give back what was declared.

A segment of a pattern that is itself in braces would be taken for a parameter, so there must be
none.  Nothing else is asked of a pattern, and its segments and parameters may have empty names.
-/

/-- A segment in braces. -/
def isBraced (segment : List Char) : Bool :=
  segment.head? == some '{' && segment.getLast? == some '}'

/-- The segment that declares a parameter. -/
def declaration (parameter : Parameter) : List Char :=
  ':' :: (parameter.name.toList ++ if parameter.required then [] else ['?'])

/-- The segments of a pattern: each segment of a path in braces gives place to the declaration of
the next parameter. -/
def restore : List (List Char) → List Parameter → List (List Char)
  | [], _ => []
  | segment :: rest, parameters =>
    if isBraced segment then
      match parameters with
      | parameter :: others => declaration parameter :: restore rest others
      | [] => segment :: restore rest []
    else segment :: restore rest parameters

/-! ## One segment -/

variable {segment pattern : List Char} {parameter : Parameter}

theorem segmentParameter?_eq_none_iff :
    segmentParameter? segment = none ↔ segment.head? ≠ some ':' := by
  unfold segmentParameter?
  split
  next name => cases Text.stripEnd? ['?'] name <;> simp
  next plain =>
    refine iff_of_true rfl fun colon => ?_
    rcases List.head?_eq_some_iff.mp colon with ⟨name, rfl⟩
    exact plain name rfl

/-- The parameter of a segment tells how it was declared. -/
theorem eq_declaration (declared : segmentParameter? segment = some parameter) :
    segment = declaration parameter ∧ parameter = .ofPath parameter.name parameter.required := by
  unfold segmentParameter? at declared
  split at declared
  next name =>
    cases stripped : Text.stripEnd? ['?'] name with
    | some front =>
      rw [stripped] at declared
      rw [← Option.some.inj declared, Text.stripEnd?_eq_some_iff.mp stripped]
      simp [declaration, Parameter.ofPath]
    | none =>
      rw [stripped] at declared
      rw [← Option.some.inj declared]
      simp [declaration, Parameter.ofPath]
  next => cases declared

theorem segmentPath_of_some (declared : segmentParameter? segment = some parameter) :
    segmentPath segment = '{' :: (parameter.name.toList ++ ['}']) := by
  rw [segmentPath, declared]
  rfl

theorem isBraced_placeholder (name : List Char) : isBraced ('{' :: (name ++ ['}'])) = true := by
  simp [isBraced, List.getLast?_cons]

/-! ## All segments -/

theorem restore_cons_of_braced (braced : isBraced segment = true) (rest : List (List Char))
    (parameter : Parameter) (others : List Parameter) :
    restore (segment :: rest) (parameter :: others) =
      declaration parameter :: restore rest others := by
  rw [restore.eq_def]
  exact if_pos braced

theorem restore_cons_of_unbraced (plain : isBraced segment = false) (rest : List (List Char))
    (parameters : List Parameter) :
    restore (segment :: rest) parameters = segment :: restore rest parameters := by
  rw [restore.eq_def]
  exact if_neg (Bool.eq_false_iff.mp plain)

theorem restore_map_segmentPath {segments : List (List Char)}
    (unbraced : ∀ segment ∈ segments, isBraced segment = false) :
    restore (segments.map segmentPath) (segments.filterMap segmentParameter?) = segments := by
  induction segments with
  | nil => rfl
  | cons segment rest inductionHypothesis =>
    have tail := inductionHypothesis fun other member =>
      unbraced other (List.mem_cons_of_mem segment member)
    cases declared : segmentParameter? segment with
    | none =>
      have plain := segmentPath_of_head?_ne (segmentParameter?_eq_none_iff.mp declared)
      rw [List.map_cons, List.filterMap_cons_none declared, plain,
        restore_cons_of_unbraced (unbraced segment List.mem_cons_self), tail]
    | some parameter =>
      rw [List.map_cons, List.filterMap_cons_some declared, segmentPath_of_some declared,
        restore_cons_of_braced (isBraced_placeholder parameter.name.toList), tail,
        ← (eq_declaration declared).1]

/-- Each segment that begins with a colon declares the parameter at its place. -/
theorem forall₂_declaration (segments : List (List Char)) :
    List.Forall₂
      (fun segment parameter => segment = declaration parameter ∧
        parameter = .ofPath parameter.name parameter.required)
      (segments.filter (·.head? == some ':')) (segments.filterMap segmentParameter?) := by
  induction segments with
  | nil => exact .nil
  | cons segment rest inductionHypothesis =>
    cases declared : segmentParameter? segment with
    | none =>
      have plain := segmentParameter?_eq_none_iff.mp declared
      rw [List.filterMap_cons_none declared, List.filter_cons_of_neg (by simpa using plain)]
      exact inductionHypothesis
    | some parameter =>
      have same := eq_declaration declared
      rw [List.filterMap_cons_some declared, List.filter_cons_of_pos (by rw [same.1]; rfl)]
      exact .cons same inductionHypothesis

/-- The empty pattern alone is written with another number of segments. -/
theorem segments_patternPath (filled : pattern ≠ []) :
    segments (patternPath pattern) = (segments pattern).map segmentPath := by
  have parted := segments_joinWith_segmentPath pattern
  rw [patternPath]
  split
  next empty =>
    rw [List.isEmpty_iff.mp empty] at parted
    -- A path without characters has one empty segment, and so does its pattern.
    rcases List.map_eq_singleton_iff.mp parted.symm with ⟨only, single, blank⟩
    have same : only = pattern := by
      rw [← Text.joinWith_piecesAt '/' pattern]
      exact (Text.joinWith_singleton ['/'] only).symm.trans
        (congrArg (Text.joinWith ['/']) single.symm)
    cases declared : segmentParameter? only with
    | none =>
      rw [segmentPath_of_head?_ne (segmentParameter?_eq_none_iff.mp declared)] at blank
      exact absurd (same.symm.trans blank) filled
    | some parameter =>
      rw [segmentPath_of_some declared] at blank
      exact absurd blank (List.cons_ne_nil _ _)
  next => exact parted

theorem joinWith_restore (filled : pattern ≠ [])
    (unbraced : ∀ segment ∈ segments pattern, isBraced segment = false) :
    Text.joinWith ['/'] (restore (segments (patternPath pattern)) (patternParameters pattern)) =
      pattern := by
  rw [segments_patternPath filled, patternParameters, restore_map_segmentPath unbraced]
  exact Text.joinWith_piecesAt '/' pattern

/-- The path of a pattern has as many segments as the pattern, and its parameters are declared by
the segments that begin with a colon, in their order.  The path and the parameters give back the
pattern, so no other pattern has both. -/
theorem pattern_recovered (filled : pattern ≠ [])
    (unbraced : ∀ segment ∈ segments pattern, isBraced segment = false) :
    (segments (patternPath pattern)).length = (segments pattern).length ∧
    List.Forall₂
      (fun segment parameter => segment = declaration parameter ∧
        parameter = .ofPath parameter.name parameter.required)
      ((segments pattern).filter (·.head? == some ':')) (patternParameters pattern) ∧
    Text.joinWith ['/'] (restore (segments (patternPath pattern)) (patternParameters pattern)) =
      pattern ∧
    ∀ other, other ≠ [] → (∀ segment ∈ segments other, isBraced segment = false) →
      patternPath other = patternPath pattern →
      patternParameters other = patternParameters pattern → other = pattern := by
  have recovered := joinWith_restore filled unbraced
  refine ⟨?_, forall₂_declaration (segments pattern), recovered, ?_⟩
  · rw [segments_patternPath filled, List.length_map]
  · intro other otherFilled otherUnbraced path parameters
    have same := joinWith_restore otherFilled otherUnbraced
    rw [path, parameters, recovered] at same
    exact same.symm

/-- Empty names and a second question mark are kept. -/
theorem pattern_recovered_posts :
    "/posts/:id/:part??/:/\x7ba\x7db".toList ≠ [] ∧
      (∀ segment ∈ segments "/posts/:id/:part??/:/\x7ba\x7db".toList, isBraced segment = false) ∧
      patternPath "/posts/:id/:part??/:/\x7ba\x7db".toList =
        "/posts/\x7bid\x7d/\x7bpart?\x7d/\x7b\x7d/\x7ba\x7db".toList ∧
      Text.joinWith ['/'] (restore
        (segments "/posts/\x7bid\x7d/\x7bpart?\x7d/\x7b\x7d/\x7ba\x7db".toList)
        [.ofPath "id" true, .ofPath "part?" false, .ofPath "" true]) =
          "/posts/:id/:part??/:/\x7ba\x7db".toList := by
  have filled : "/posts/:id/:part??/:/\x7ba\x7db".toList ≠ [] := by decide
  have unbraced : ∀ segment ∈ segments "/posts/:id/:part??/:/\x7ba\x7db".toList,
      isBraced segment = false := by
    decide +kernel
  have path : patternPath "/posts/:id/:part??/:/\x7ba\x7db".toList =
      "/posts/\x7bid\x7d/\x7bpart?\x7d/\x7b\x7d/\x7ba\x7db".toList := by
    decide +kernel
  have parameters : patternParameters "/posts/:id/:part??/:/\x7ba\x7db".toList =
      [.ofPath "id" true, .ofPath "part?" false, .ofPath "" true] := by
    decide +kernel
  have recovered := (pattern_recovered filled unbraced).2.2.1
  rw [path, parameters] at recovered
  exact ⟨filled, unbraced, path, recovered⟩

end Route
end Routebook
