import Routebook.Proofs.Entries
import Routebook.Proofs.Source.LogicalLines
import Routebook.Proofs.Text.Class

namespace Routebook

/-!
# Interfaces in any layout

An interface may stand on one line or on many.  Both are cut into the same logical lines, and a
scan reads nothing but these, so that it answers alike.  What it answers is found by induction on
the members: within an object in place the scan counts the open objects, and behind the members of
the object the count is what it was, however deep the objects inside are nested.  So the members of
an object leave the scan where it stood, and only those of the interface itself are read.
-/

/-! ## Written interfaces -/

/-- A name in a source. -/
structure IsIdentifier (name : String) : Prop where
  filled : name ≠ ""
  named : ∀ c ∈ name.toList, Text.isNameChar c = true

/-- The members of an interface or of an object in place, in order. -/
inductive InterfaceMembers where
  | none
  | field (name type : String) (isList : Bool) (later : InterfaceMembers)
  | object (name : String) (inner later : InterfaceMembers)

/-- The line of a member. -/
def memberRow (name : String) (type : List Char) : List Char :=
  name.toList ++ ':' :: ' ' :: type

namespace InterfaceMembers

/-- Every name and every type is a name of a source, also those in objects. -/
def IsWritten : InterfaceMembers → Prop
  | none => True
  | field name type _ later => IsIdentifier name ∧ IsIdentifier type ∧ later.IsWritten
  | object name inner later => IsIdentifier name ∧ inner.IsWritten ∧ later.IsWritten

/-- The names of the members, without those in objects. -/
def names : InterfaceMembers → List String
  | none => []
  | field name _ _ later => name :: later.names
  | object name _ later => name :: later.names

/-- The names of the objects among the members. -/
def objects : InterfaceMembers → List String
  | none => []
  | field _ _ _ later => later.objects
  | object name _ later => name :: later.objects

/-- A type or a list of it. -/
def typeText (type : String) (isList : Bool) : List Char :=
  type.toList ++ if isList then ['[', ']'] else []

/-- The members with one member or brace per line. -/
def rows : InterfaceMembers → List (List Char)
  | none => []
  | field name type isList later => memberRow name (typeText type isList) :: later.rows
  | object name inner later => memberRow name ['{'] :: (inner.rows ++ ['}'] :: later.rows)

/-- The members on one line, with a semicolon behind each. -/
def line : InterfaceMembers → List Char
  | none => []
  | field name type isList later =>
    ' ' :: (memberRow name (typeText type isList) ++ ';' :: later.line)
  | object name inner later =>
    ' ' :: (memberRow name ['{'] ++ (inner.line ++ ' ' :: '}' :: ';' :: later.line))

end InterfaceMembers

/-- What may stand in front of an interface. -/
inductive InterfaceModifier where
  | none
  | exported
  | exportedDefault

/-- A modifier with the blank behind it. -/
def InterfaceModifier.text : InterfaceModifier → List Char
  | none => []
  | exported => "export ".toList
  | exportedDefault => "export default ".toList

/-- An interface as it is declared. -/
structure WrittenInterface where
  modifier : InterfaceModifier
  name : String
  members : InterfaceMembers
  named : IsIdentifier name
  written : members.IsWritten
  distinct : members.names.Nodup

namespace WrittenInterface

/-- The line that opens an interface, without a modifier. -/
def bareHeader (interface : WrittenInterface) : List Char :=
  "interface ".toList ++ (interface.name.toList ++ [' ', '{'])

/-- The line that opens an interface. -/
def header (interface : WrittenInterface) : List Char :=
  interface.modifier.text ++ interface.bareHeader

/-- The interface with one member or brace per line. -/
def rows (interface : WrittenInterface) : List (List Char) :=
  interface.header :: (interface.members.rows ++ [['}']])

/-- The interface on one line. -/
def line (interface : WrittenInterface) : List Char :=
  interface.header ++ (interface.members.line ++ [' ', '}'])

end WrittenInterface

/-- Two ways to write interfaces.  Blank lines and blanks at the ends of lines are free. -/
inductive IsLaidOut (interfaces : List WrittenInterface) (source : Source) : Prop
  /-- Everything stands on one line. -/
  | inRow (rows : Text.rows source.text.toList =
      [Text.joinWith [' '] (interfaces.map WrittenInterface.line)])
  /-- Every member and every brace stands on a line of its own, with or without a semicolon. -/
  | inLines (rows : List.Forall₂ (fun row line => line = row ∨ line = row ++ [';'])
      (interfaces.flatMap WrittenInterface.rows) (Text.rows source.text.toList))

/-! ## Characters of names -/

theorem IsIdentifier.ne_nil {name : String} (is : IsIdentifier name) : name.toList ≠ [] := by
  simpa using is.filled

theorem IsIdentifier.not_mem {name : String} (is : IsIdentifier name) {c : Char}
    (other : Text.isNameChar c = false) : c ∉ name.toList :=
  fun member => Bool.false_ne_true (other.symm.trans (is.named c member))

theorem IsIdentifier.solid {name : String} (is : IsIdentifier name) :
    ∀ c ∈ name.toList, Text.isBlank c = false := by
  intro c member
  by_contra blank
  exact is.not_mem (Text.isNameChar_of_isBlank (Bool.not_eq_false _ ▸ blank)) member

/-- A text that begins with a name begins with no other word. -/
theorem stripStart?_word_eq_none {word name : List Char} {mark : Char}
    (worded : ∀ c ∈ word, Text.isNameChar c = true) (named : ∀ c ∈ name, Text.isNameChar c = true)
    (stop : Text.isNameChar mark = false) (other : mark ≠ ' ') (rest : List Char) :
    Text.stripStart? (word ++ [' ']) (name ++ mark :: rest) = none := by
  apply Option.eq_none_iff_forall_ne_some.mpr
  intro behind found
  have whole := Text.stripStart?_eq_some_iff.mp found
  rw [List.append_assoc, List.singleton_append] at whole
  have stops : ∀ c, (mark :: rest).head? = some c → Text.isNameChar c = false := by
    rintro c ⟨⟩
    exact stop
  have stops' : ∀ c, (' ' :: behind).head? = some c → Text.isNameChar c = false := by
    rintro c ⟨⟩
    decide
  have same := (Text.span_append named stops).2
  rw [whole, (Text.span_append worded stops').2] at same
  exact other (List.cons.inj same).1.symm

theorem isComment_cons_eq_false {c : Char} (slash : c ≠ '/') (star : c ≠ '*') (rest : List Char) :
    isComment (c :: rest) = false := by
  rw [isComment, Bool.eq_false_iff]
  simp only [ne_eq, Bool.or_eq_true, Text.startsWith_iff, List.cons_prefix_cons]
  rintro ((⟨same, -⟩ | ⟨same, -⟩) | ⟨same, -⟩)
  · exact slash same.symm
  · exact slash same.symm
  · exact star same.symm

/-! ## The line of a member -/

/-- What stands behind the colon of a member. -/
structure IsRowEnd (type : List Char) : Prop where
  filled : type ≠ []
  last : ∀ c, type.getLast? = some c → Text.isBlank c = false

theorem isRowEnd_brace : IsRowEnd ['{'] where
  filled := List.cons_ne_nil _ _
  last := by
    rintro c ⟨⟩
    decide

theorem isRowEnd_typeText {type : String} (is : IsIdentifier type) (isList : Bool) :
    IsRowEnd (InterfaceMembers.typeText type isList) where
  filled := List.append_ne_nil_of_left_ne_nil is.ne_nil _
  last := by
    intro c last
    cases isList with
    | false =>
      rw [InterfaceMembers.typeText, if_neg Bool.false_ne_true, List.append_nil] at last
      exact is.solid c (List.mem_of_getLast? last)
    | true =>
      rw [InterfaceMembers.typeText, if_pos rfl, List.getLast?_append_of_ne_nil _ (by simp)] at last
      exact Option.some.inj last ▸ by decide

theorem getLast?_typeText_ne {type : String} (is : IsIdentifier type) (isList : Bool) :
    (InterfaceMembers.typeText type isList).getLast? ≠ some '{' := by
  intro last
  cases isList with
  | false =>
    rw [InterfaceMembers.typeText, if_neg Bool.false_ne_true, List.append_nil] at last
    exact is.not_mem (by decide) (List.mem_of_getLast? last)
  | true =>
    rw [InterfaceMembers.typeText, if_pos rfl, List.getLast?_append_of_ne_nil _ (by simp)] at last
    exact absurd (Option.some.inj last) (by decide)

section Rows

variable {name : String} {type : List Char}

theorem getLast?_memberRow (name : String) (ends : IsRowEnd type) :
    (memberRow name type).getLast? = type.getLast? := by
  have shape : memberRow name type = (name.toList ++ [':', ' ']) ++ type := by
    simp [memberRow]
  rw [shape, List.getLast?_append_of_ne_nil _ ends.filled]

theorem trim_memberRow (is : IsIdentifier name) (ends : IsRowEnd type) :
    Text.trim (memberRow name type) = memberRow name type := by
  apply Text.trim_eq_self
  · intro c first
    rw [memberRow, List.head?_append_of_ne_nil _ is.ne_nil] at first
    exact is.solid c (List.mem_of_mem_head? first)
  · intro c last
    rw [getLast?_memberRow name ends] at last
    exact ends.last c last

theorem isComment_memberRow (is : IsIdentifier name) (type rest : List Char) :
    isComment (memberRow name type ++ rest) = false := by
  rcases List.exists_cons_of_ne_nil is.ne_nil with ⟨c, behind, shape⟩
  have named : Text.isNameChar c = true := is.named c (shape ▸ List.mem_cons_self)
  rw [memberRow, shape, List.cons_append, List.cons_append]
  apply isComment_cons_eq_false
  · rintro rfl
    exact absurd named (by decide)
  · rintro rfl
    exact absurd named (by decide)

theorem of_memberRow (is : IsIdentifier name) (ends : IsRowEnd type) :
    InterfaceLine.of (memberRow name type) = .code (memberRow name type) := by
  have apart : ∀ word ∈ ["export ", "default ", "declare ", "interface "],
      Text.stripStart? word.toList (memberRow name type) = none := by
    have words : ∀ word ∈ ["export ", "default ", "declare ", "interface "],
        word.toList.getLast? = some ' ' ∧ word.toList.dropLast.all Text.isNameChar = true := by
      decide
    intro word among
    rcases words word among with ⟨blank, worded⟩
    have shape : word.toList.dropLast ++ [' '] = word.toList :=
      List.dropLast_append_getLast? ' ' blank
    rw [← shape]
    exact stripStart?_word_eq_none (List.all_eq_true.mp worded) is.named (by decide) (by decide) _
  have whole : dropModifiers (memberRow name type) = memberRow name type := by
    rw [dropModifiers,
      Text.dropRepeated_of_stripStart?_eq_none (apart "export " (by decide)),
      Text.dropRepeated_of_stripStart?_eq_none (apart "default " (by decide)),
      Text.dropRepeated_of_stripStart?_eq_none (apart "declare " (by decide)),
      trim_memberRow is ends]
  have code := isComment_memberRow is type []
  rw [List.append_nil] at code
  rw [InterfaceLine.of, code, if_neg Bool.false_ne_true, whole]
  dsimp only
  rw [apart "interface " (by decide)]

end Rows

/-! ## Logical lines -/

theorem IsIdentifier.plain {name : String} (is : IsIdentifier name) :
    ∀ c ∈ name.toList, c ∉ codeMarks := by
  have others : ∀ mark ∈ codeMarks, Text.isNameChar mark = false :=
    List.forall_iff_forall_mem.mp (by decide)
  exact fun c member mark => is.not_mem (others c mark) member

theorem isLogicalLine_field {name type : String} (is : IsIdentifier name)
    (typed : IsIdentifier type) (isList : Bool) :
    IsLogicalLine (memberRow name (InterfaceMembers.typeText type isList)) := by
  refine .plain ?_ (trim_memberRow is (isRowEnd_typeText typed isList)) ?_
  · exact List.append_ne_nil_of_left_ne_nil is.ne_nil _
  · intro c member
    rw [memberRow, List.mem_append, List.mem_cons, List.mem_cons, InterfaceMembers.typeText,
      List.mem_append] at member
    rcases member with name | rfl | rfl | type | list
    · exact is.plain c name
    · decide
    · decide
    · exact typed.plain c type
    · split at list
      next =>
        have brackets : ∀ c ∈ ['[', ']'], c ∉ codeMarks := List.forall_iff_forall_mem.mp (by decide)
        exact brackets c list
      next => cases list

theorem isLogicalLine_object {name : String} (is : IsIdentifier name) :
    IsLogicalLine (memberRow name ['{']) := by
  have shape : memberRow name ['{'] = (name.toList ++ [':', ' ']) ++ ['{'] := by
    simp [memberRow]
  have trimmed := trim_memberRow is isRowEnd_brace
  rw [shape] at trimmed ⊢
  refine .opening trimmed fun c member => ?_
  rcases List.mem_append.mp member with name | mark
  · exact is.plain c name
  · have marks : ∀ c ∈ [':', ' '], c ∉ codeMarks := List.forall_iff_forall_mem.mp (by decide)
    exact marks c mark

/-- Members on one line are cut into the rows of the members. -/
theorem InterfaceMembers.codeLines_line {members : InterfaceMembers} (written : members.IsWritten)
    (rest : List Char) : codeLines (members.line ++ rest) = members.rows ++ codeLines rest := by
  have blank : Text.isBlank ' ' = true := by decide
  induction members generalizing rest with
  | none => rfl
  | field name type isList later inductionHypothesis =>
    rw [line, List.cons_append, List.append_assoc, List.cons_append,
      codeLines_cons_of_isBlank blank,
      (isLogicalLine_field written.1 written.2.1 isList).codeLines_append_semicolon,
      inductionHypothesis written.2.2, rows, List.cons_append]
  | object name inner later innerHypothesis laterHypothesis =>
    -- The brace ends the line of the object, so its members begin a new one.
    have opens : (memberRow name ['{']).getLast? = some '{' :=
      getLast?_memberRow name isRowEnd_brace
    rw [line, List.cons_append, codeLines_cons_of_isBlank blank, List.append_assoc,
      (isLogicalLine_object written.1).codeLines_append_of_opens opens, List.append_assoc,
      innerHypothesis written.2.1, List.cons_append, List.cons_append, List.cons_append,
      codeLines_cons_of_isBlank blank, IsLogicalLine.codeLines_closing,
      codeLines_semicolon, laterHypothesis written.2.2, rows, List.cons_append, List.append_assoc,
      List.cons_append]

/-! ## The line that opens an interface -/

/-- A header ends in a brace, and no other mark stands in it. -/
theorem WrittenInterface.exists_front (interface : WrittenInterface) :
    ∃ front, interface.header = front ++ ['{'] ∧ ∀ c ∈ front, c ∉ codeMarks := by
  unfold header bareHeader
  refine ⟨interface.modifier.text ++ ("interface ".toList ++ (interface.name.toList ++ [' '])),
    ?_, fun c member => ?_⟩
  · simp
  · have modifiers : ∀ c ∈ interface.modifier.text, c ∉ codeMarks := by
      cases interface.modifier <;> exact List.forall_iff_forall_mem.mp (by decide)
    have word : ∀ c ∈ "interface ".toList, c ∉ codeMarks :=
      List.forall_iff_forall_mem.mp (by decide)
    rw [List.mem_append, List.mem_append, List.mem_append, List.mem_singleton] at member
    rcases member with modifier | inside | name | rfl
    · exact modifiers c modifier
    · exact word c inside
    · exact interface.named.plain c name
    · decide

theorem WrittenInterface.head?_header (interface : WrittenInterface) :
    ∃ c rest, interface.header = c :: rest ∧ c ∈ ['e', 'i'] := by
  rw [header]
  cases interface.modifier with
  | none => exact ⟨'i', _, rfl, by decide⟩
  | exported => exact ⟨'e', _, rfl, by decide⟩
  | exportedDefault => exact ⟨'e', _, rfl, by decide⟩

theorem WrittenInterface.isComment_header (interface : WrittenInterface) (rest : List Char) :
    isComment (interface.header ++ rest) = false := by
  rcases interface.head?_header with ⟨c, behind, shape, letter⟩
  have other : ∀ c ∈ ['e', 'i'], c ≠ '/' ∧ c ≠ '*' := List.forall_iff_forall_mem.mp (by decide)
  rw [shape, List.cons_append]
  exact isComment_cons_eq_false (other c letter).1 (other c letter).2 _

theorem WrittenInterface.getLast?_header (interface : WrittenInterface) :
    interface.header.getLast? = some '{' := by
  rcases interface.exists_front with ⟨front, shape, -⟩
  rw [shape, List.getLast?_concat]

theorem WrittenInterface.trim_header (interface : WrittenInterface) :
    Text.trim interface.header = interface.header := by
  apply Text.trim_eq_self
  · intro c first
    rcases interface.head?_header with ⟨letter, behind, shape, among⟩
    have solid : ∀ c ∈ ['e', 'i'], Text.isBlank c = false :=
      List.forall_iff_forall_mem.mp (by decide)
    rw [shape] at first
    exact Option.some.inj first ▸ solid letter among
  · intro c last
    rw [interface.getLast?_header] at last
    exact Option.some.inj last ▸ by decide

theorem WrittenInterface.isLogicalLine_header (interface : WrittenInterface) :
    IsLogicalLine interface.header := by
  rcases interface.exists_front with ⟨front, shape, plain⟩
  have trimmed := interface.trim_header
  rw [shape] at trimmed ⊢
  exact .opening trimmed plain

theorem WrittenInterface.dropModifiers_header (interface : WrittenInterface) :
    dropModifiers interface.header = interface.bareHeader := by
  have noExport : Text.dropRepeated "export ".toList interface.bareHeader = interface.bareHeader :=
    Text.dropRepeated_of_stripStart?_eq_none rfl
  have noDefault : Text.dropRepeated "default ".toList interface.bareHeader =
      interface.bareHeader :=
    Text.dropRepeated_of_stripStart?_eq_none rfl
  have noDeclare : Text.dropRepeated "declare ".toList interface.bareHeader =
      interface.bareHeader :=
    Text.dropRepeated_of_stripStart?_eq_none rfl
  have trimmed : Text.trim interface.bareHeader = interface.bareHeader :=
    WrittenInterface.trim_header { interface with modifier := .none }
  have dropExport : ∀ rest, Text.dropRepeated "export ".toList ("export ".toList ++ rest) =
      Text.dropRepeated "export ".toList rest :=
    Text.dropRepeated_append (by decide)
  have dropDefault : ∀ rest, Text.dropRepeated "default ".toList ("default ".toList ++ rest) =
      Text.dropRepeated "default ".toList rest :=
    Text.dropRepeated_append (by decide)
  have bare : Text.dropRepeated "default ".toList (Text.dropRepeated "export ".toList
      (interface.modifier.text ++ interface.bareHeader)) = interface.bareHeader := by
    cases interface.modifier with
    | none =>
      have nothing : InterfaceModifier.none.text = [] := rfl
      rw [nothing, List.nil_append, noExport, noDefault]
    | exported =>
      have word : InterfaceModifier.exported.text = "export ".toList := rfl
      rw [word, dropExport, noExport, noDefault]
    | exportedDefault =>
      have words : InterfaceModifier.exportedDefault.text =
          "export ".toList ++ "default ".toList := rfl
      have between : Text.dropRepeated "export ".toList
          ("default ".toList ++ interface.bareHeader) = "default ".toList ++ interface.bareHeader :=
        Text.dropRepeated_of_stripStart?_eq_none rfl
      rw [words, List.append_assoc, dropExport, between, dropDefault, noDefault]
  rw [dropModifiers, header, bare, noDeclare, trimmed]

/-- The header is known by its word, and the name ends in front of the brace. -/
theorem WrittenInterface.of_header (interface : WrittenInterface) :
    InterfaceLine.of interface.header = .header interface.name := by
  have code := interface.isComment_header []
  rw [List.append_nil] at code
  have stop : ∀ c, [' ', '{'].head? = some c → Text.isNameChar c = false := by
    rintro c ⟨⟩
    decide
  have name := (Text.span_append interface.named.named stop).1
  have found : Text.stripStart? "interface ".toList interface.bareHeader =
      some (interface.name.toList ++ [' ', '{']) :=
    Text.stripStart?_eq_some_iff.mpr rfl
  rw [InterfaceLine.of, code, if_neg Bool.false_ne_true, interface.dropModifiers_header]
  dsimp only
  rw [found]
  dsimp only
  rw [name, String.ofList_toList]

/-! ## Layouts -/

/-- An interface on one line is cut into its rows. -/
theorem WrittenInterface.codeLines_line (interface : WrittenInterface) (rest : List Char) :
    codeLines (interface.line ++ rest) = interface.rows ++ codeLines rest := by
  have blank : Text.isBlank ' ' = true := by decide
  rw [line, List.append_assoc,
    interface.isLogicalLine_header.codeLines_append_of_opens interface.getLast?_header,
    List.append_assoc, InterfaceMembers.codeLines_line interface.written, List.cons_append,
    codeLines_cons_of_isBlank blank, List.singleton_append, IsLogicalLine.codeLines_closing, rows,
    List.cons_append, List.append_assoc, List.singleton_append]

theorem codeLines_joinWith (interfaces : List WrittenInterface) :
    codeLines (Text.joinWith [' '] (interfaces.map WrittenInterface.line)) =
      interfaces.flatMap WrittenInterface.rows := by
  have blank : Text.isBlank ' ' = true := by decide
  induction interfaces with
  | nil => rfl
  | cons interface others inductionHypothesis =>
    rw [List.map_cons, List.flatMap_cons]
    by_cases single : others = []
    · have whole := interface.codeLines_line []
      rw [List.append_nil] at whole
      rw [single, List.map_nil, Text.joinWith_singleton, whole]
      rfl
    · have more : others.map WrittenInterface.line ≠ [] := fun none =>
        single (List.map_eq_nil_iff.mp none)
      rw [Text.joinWith_cons more, interface.codeLines_line, List.singleton_append,
        codeLines_cons_of_isBlank blank, inductionHypothesis]

theorem InterfaceMembers.isLogicalLine_rows {members : InterfaceMembers}
    (written : members.IsWritten) :
    ∀ row ∈ members.rows, IsLogicalLine row ∧ ∀ rest, isComment (row ++ rest) = false := by
  induction members with
  | none => exact nofun
  | field name type isList later inductionHypothesis =>
    intro row member
    rcases List.mem_cons.mp member with rfl | member
    · exact ⟨isLogicalLine_field written.1 written.2.1 isList, isComment_memberRow written.1 _⟩
    · exact inductionHypothesis written.2.2 row member
  | object name inner later innerHypothesis laterHypothesis =>
    intro row member
    rw [rows, List.mem_cons, List.mem_append, List.mem_cons] at member
    rcases member with rfl | inside | rfl | member
    · exact ⟨isLogicalLine_object written.1, isComment_memberRow written.1 _⟩
    · exact innerHypothesis written.2.1 row inside
    · exact ⟨.closing, fun rest => isComment_cons_eq_false (by decide) (by decide) rest⟩
    · exact laterHypothesis written.2.2 row member

theorem WrittenInterface.isLogicalLine_rows (interface : WrittenInterface) :
    ∀ row ∈ interface.rows, IsLogicalLine row ∧ ∀ rest, isComment (row ++ rest) = false := by
  intro row member
  rw [rows, List.mem_cons, List.mem_append, List.mem_singleton] at member
  rcases member with rfl | member | rfl
  · exact ⟨interface.isLogicalLine_header, interface.isComment_header⟩
  · exact InterfaceMembers.isLogicalLine_rows interface.written row member
  · exact ⟨.closing, fun rest => isComment_cons_eq_false (by decide) (by decide) rest⟩

/-- In every layout the logical lines are the rows of the interfaces. -/
theorem IsLaidOut.logicalLines_eq {interfaces : List WrittenInterface} {source : Source}
    (laid : IsLaidOut interfaces source) :
    logicalLines source.text.toList = interfaces.flatMap WrittenInterface.rows := by
  rw [Routebook.logicalLines_eq]
  cases laid with
  | inRow rows =>
    have code : isComment (Text.joinWith [' '] (interfaces.map WrittenInterface.line)) = false := by
      cases interfaces with
      | nil => rfl
      | cons interface others =>
        rw [List.map_cons]
        by_cases single : others = []
        · rw [single, List.map_nil, Text.joinWith_singleton, WrittenInterface.line]
          exact interface.isComment_header _
        · have more : others.map WrittenInterface.line ≠ [] := fun none =>
            single (List.map_eq_nil_iff.mp none)
          rw [Text.joinWith_cons more, WrittenInterface.line, List.append_assoc]
          exact interface.isComment_header _
    rw [rows, List.flatMap_singleton, code, if_neg Bool.false_ne_true, codeLines_joinWith]
  | inLines rows =>
    have logical : ∀ row ∈ interfaces.flatMap WrittenInterface.rows,
        IsLogicalLine row ∧ ∀ rest, isComment (row ++ rest) = false := by
      intro row member
      rcases List.mem_flatMap.mp member with ⟨interface, -, inside⟩
      exact interface.isLogicalLine_rows row inside
    generalize interfaces.flatMap WrittenInterface.rows = whole at rows logical
    generalize Text.rows source.text.toList = lines at rows
    induction rows with
    | nil => rfl
    | @cons row line others lines head tail inductionHypothesis =>
      have here := logical row List.mem_cons_self
      have own : (if isComment line then [line] else codeLines line) = [row] := by
        rcases head with rfl | rfl
        · have code := here.2 []
          rw [List.append_nil] at code
          rw [code, if_neg Bool.false_ne_true, here.1.codeLines_eq]
        · rw [here.2, if_neg Bool.false_ne_true, here.1.codeLines_append_semicolon]
          rfl
      rw [List.flatMap_cons, own,
        inductionHypothesis fun row member => logical row (List.mem_cons_of_mem _ member)]
      rfl

/-! ## Reading a member -/

/-- The names of properties whose type is fixed. -/
def typedNames : List String := ["email", "password", "password_confirmation"]

/-- The property of an object in place: a single value, and an object unless the name fixes
another type. -/
structure IsObjectProperty (name : String) (property : Property) : Prop where
  single : property.isArray = false
  type : name ∉ typedNames → property.type = .primitive "object"

theorem isArray_withConvention (name : String) (property : Property) :
    (property.withConvention name).isArray = property.isArray := by
  unfold Property.withConvention
  split
  · rfl
  · split
    · rfl
    · split <;> rfl

theorem type_withConvention {name : String} (free : name ∉ typedNames) (property : Property) :
    (property.withConvention name).type = property.type := by
  simp only [typedNames, List.mem_cons, List.not_mem_nil, or_false, not_or] at free
  unfold Property.withConvention isSecretName
  rw [if_neg (by simp [free]), if_neg (by simp [free])]
  split <;> rfl

section Members

variable {name : String} {type : List Char}

theorem memberName_eq (is : IsIdentifier name) :
    memberName name.toList = (name.toList, false) := by
  have trimmed : Text.trim name.toList = name.toList := Text.trim_of_solid is.solid
  have noModifier : Text.stripStart? "readonly ".toList name.toList = none :=
    Text.stripStart?_eq_none_of_not_mem (c := ' ') (by decide) (is.not_mem (by decide))
  have noMark : Text.stripEnd? ['?'] name.toList = none := by
    apply Option.eq_none_iff_forall_ne_some.mpr
    intro rest found
    apply is.not_mem (c := '?') (by decide)
    rw [Text.stripEnd?_eq_some_iff.mp found]
    exact List.mem_append_right _ List.mem_cons_self
  have noQuote : ∀ c ∈ name.toList, (c == '"' || c == '\x27') = false := by
    intro c member
    rw [Bool.or_eq_false_iff, beq_eq_false_iff_ne, beq_eq_false_iff_ne]
    constructor
    · rintro rfl
      exact is.not_mem (by decide) member
    · rintro rfl
      exact is.not_mem (by decide) member
  have bare : Text.trimWhere (fun c => c == '"' || c == '\x27') name.toList = name.toList :=
    Text.trimWhere_eq_self (fun c first => noQuote c (List.mem_of_mem_head? first))
      fun c last => noQuote c (List.mem_of_getLast? last)
  rw [memberName, trimmed, Text.dropRepeated_of_stripStart?_eq_none noModifier, trimmed, noMark]
  dsimp only
  rw [bare]

theorem IsIdentifier.not_refused (is : IsIdentifier name) :
    ¬ (name.toList.isEmpty || name.toList.contains ' ' || name.toList.contains '(') = true := by
  have blank : ' ' ∉ name.toList := is.not_mem (by decide)
  have parenthesis : '(' ∉ name.toList := is.not_mem (by decide)
  simp [is.filled, blank, parenthesis]

/-- A member with a name of a source is a property of this name. -/
theorem exists_readMember (is : IsIdentifier name) (type : List Char) (hint : Hint)
    (stream : RandomStream) :
    ∃ property behind,
      readMember name.toList type hint stream = (some (name, property), behind) := by
  rw [readMember, memberName_eq is]
  dsimp only
  rw [if_neg is.not_refused, String.ofList_toList]
  split
  next => exact ⟨_, _, rfl⟩
  next => exact ⟨_, _, rfl⟩

theorem isObjectProperty_of_readMember (is : IsIdentifier name) {stream behind : RandomStream}
    {property : Property}
    (read : readMember name.toList [' ', '{'] .none stream = (some (name, property), behind)) :
    IsObjectProperty name property := by
  have union : withoutNull (memberType [' ', '{']) = ("object".toList, false) := by
    decide +kernel
  have item : itemType "object".toList = ("object".toList, false) := by
    decide +kernel
  have built : (propertyWith .none "object".toList).withHint .none =
      Property.ofPrimitive "object" .null := by
    decide +kernel
  rw [readMember, memberName_eq is] at read
  dsimp only at read
  rw [if_neg is.not_refused, union] at read
  dsimp only at read
  rw [item] at read
  dsimp only at read
  rw [built, String.ofList_toList] at read
  rcases Prod.mk.inj read with ⟨found, -⟩
  rcases (Prod.mk.inj (Option.some.inj found)).2 with rfl
  constructor
  · rw [isArray_withConvention]
  · intro free
    rw [type_withConvention free]
    rfl

end Members

/-! ## The scan over members -/

namespace InterfaceScan

/-- The scan outside of every interface. -/
def between (finished : List Schema) (stream : RandomStream) : InterfaceScan :=
  ⟨finished, none, .none, 0, stream⟩

/-- The scan within an interface and a number of objects. -/
def within (finished : List Schema) (schema : Schema) (openObjects : Nat) (stream : RandomStream) :
    InterfaceScan :=
  ⟨finished, some schema, .none, openObjects, stream⟩

variable {finished : List Schema} {schema : Schema} {stream : RandomStream} {openObjects : Nat}

theorem memberRow_ne_brace (name : String) (type : List Char) :
    ¬ (memberRow name type == ['}']) = true := by
  rw [beq_iff_eq]
  intro same
  have colon : ':' ∈ memberRow name type := by
    simp [memberRow]
  rw [same] at colon
  exact absurd colon (by decide)

/-- A member outside of every object adds a property of its name. -/
theorem step_memberRow {name : String} {type : List Char} (is : IsIdentifier name)
    (ends : IsRowEnd type) (finished : List Schema) (schema : Schema) (stream : RandomStream) :
    ∃ property behind, step (within finished schema 0 stream) (memberRow name type) =
        within finished { schema with properties := schema.properties.insert name property }
          (if type.getLast? = some '{' then 1 else 0) behind ∧
      (type = ['{'] → IsObjectProperty name property) := by
  rcases exists_readMember is (' ' :: type) .none stream with ⟨property, behind, read⟩
  have cut : Text.cutAt? ':' (memberRow name type) = some (name.toList, ' ' :: type) :=
    Text.cutAt?_append_cons (is.not_mem (by decide)) _
  have whole : Text.trimEnd (' ' :: type) = ' ' :: type := by
    apply Text.trimEndWhere_eq_self
    intro c last
    rw [List.getLast?_cons_of_ne_nil ends.filled] at last
    exact ends.last c last
  have opens : Text.endsWith ['{'] (Text.trimEnd (' ' :: type)) = true ↔
      type.getLast? = some '{' := by
    rw [whole, Text.endsWith_singleton_iff, List.getLast?_cons_of_ne_nil ends.filled]
  refine ⟨property, behind, ?_, ?_⟩
  · rw [step, of_memberRow is ends, within]
    dsimp only
    rw [if_neg (Nat.lt_irrefl 0), if_neg (memberRow_ne_brace name type), readCode, cut]
    dsimp only
    rw [read]
    simp only [opens]
    rfl
  · rintro rfl
    exact isObjectProperty_of_readMember is read

theorem of_brace : InterfaceLine.of ['}'] = .code ['}'] := by
  decide +kernel

/-- Within an object a member is only looked at for an opening brace. -/
theorem step_memberRow_of_open {name : String} {type : List Char} (is : IsIdentifier name)
    (ends : IsRowEnd type) :
    step (within finished schema (openObjects + 1) stream) (memberRow name type) =
      within finished schema
        (if type.getLast? = some '{' then openObjects + 2 else openObjects + 1) stream := by
  rw [step, of_memberRow is ends, within]
  dsimp only
  rw [if_pos (Nat.succ_pos openObjects), if_neg (memberRow_ne_brace name type)]
  simp only [Text.endsWith_singleton_iff, getLast?_memberRow name ends]
  split <;> rfl

theorem step_brace_of_open :
    step (within finished schema (openObjects + 1) stream) ['}'] =
      within finished schema openObjects stream := by
  rw [step, of_brace, within]
  dsimp only
  rw [if_pos (Nat.succ_pos openObjects), if_pos (beq_self_eq_true ['}'])]
  rfl

/-- The members of an object leave the scan where it stood. -/
theorem foldl_step_rows_of_open {members : InterfaceMembers} (written : members.IsWritten)
    (openObjects : Nat) :
    members.rows.foldl step (within finished schema (openObjects + 1) stream) =
      within finished schema (openObjects + 1) stream := by
  -- An object inside is read with one more open object, so the count stays general.
  induction members generalizing openObjects with
  | none => rfl
  | field name type isList later inductionHypothesis =>
    rw [InterfaceMembers.rows, List.foldl_cons,
      step_memberRow_of_open written.1 (isRowEnd_typeText written.2.1 isList),
      if_neg (getLast?_typeText_ne written.2.1 isList), inductionHypothesis written.2.2]
  | object name inner later innerHypothesis laterHypothesis =>
    have opens : ['{'].getLast? = some '{' := rfl
    rw [InterfaceMembers.rows, List.foldl_cons, step_memberRow_of_open written.1 isRowEnd_brace,
      if_pos opens, List.foldl_append, innerHypothesis written.2.1, List.foldl_cons,
      step_brace_of_open, laterHypothesis written.2.2]

end InterfaceScan

/-! ## What is read -/

/-- Properties with those of members added. -/
structure InterfaceMembers.IsAdded (members : InterfaceMembers) (before after : Keyed Property) :
    Prop where
  keys : after.keys = before.keys ++ members.names
  kept : ∀ name, name ∉ members.names → after.get? name = before.get? name
  objects : ∀ name ∈ members.objects,
    ∃ property, after.get? name = some property ∧ IsObjectProperty name property

/-- An interface is read as a schema of its name with the names of its own members in order. -/
structure WrittenInterface.IsReadAs (interface : WrittenInterface) (schema : Schema) : Prop where
  name : schema.name = interface.name
  kind : schema.kind = .interface
  keys : schema.properties.keys = interface.members.names
  objects : ∀ name ∈ interface.members.objects,
    ∃ property, schema.properties.get? name = some property ∧ IsObjectProperty name property

/-- A member in front of others is added first. -/
theorem InterfaceMembers.IsAdded.cons {name : String} {members later : InterfaceMembers}
    {before after : Keyed Property} {property : Property}
    (added : later.IsAdded (before.insert name property) after)
    (named : members.names = name :: later.names)
    (fresh : ∀ other ∈ members.names, other ∉ before.keys)
    (distinct : members.names.Nodup)
    (object : ∀ other ∈ members.objects, other ∈ later.objects ∨
      other = name ∧ IsObjectProperty name property) :
    members.IsAdded before after := by
  rw [named] at fresh distinct
  have apart := List.nodup_cons.mp distinct
  refine ⟨?_, ?_, ?_⟩
  · rw [added.keys, Keyed.keys_insert, if_neg (fresh name List.mem_cons_self), named,
      List.append_assoc, List.singleton_append]
  · intro other absent
    rw [named, List.mem_cons, not_or] at absent
    rw [added.kept other absent.2, Keyed.get?_insert, if_neg absent.1]
  · intro other member
    rcases object other member with later | ⟨rfl, is⟩
    · exact added.objects other later
    · refine ⟨property, ?_, is⟩
      rw [added.kept other apart.1, Keyed.get?_insert, if_pos rfl]

/-- Later members are still new behind the first one. -/
theorem InterfaceMembers.fresh_insert {name : String} {members later : InterfaceMembers}
    {before : Keyed Property} (named : members.names = name :: later.names)
    (fresh : ∀ other ∈ members.names, other ∉ before.keys) (distinct : members.names.Nodup)
    (property : Property) : ∀ other ∈ later.names, other ∉ (before.insert name property).keys := by
  rw [named] at fresh distinct
  intro other member known
  rcases Keyed.mem_keys_insert.mp known with rfl | old
  · exact (List.nodup_cons.mp distinct).1 member
  · exact fresh other (List.mem_cons_of_mem name member) old

namespace InterfaceScan

/-- The members of an interface are added to its properties. -/
theorem foldl_step_rows {members : InterfaceMembers} (written : members.IsWritten)
    (distinct : members.names.Nodup) (finished : List Schema) (schema : Schema)
    (fresh : ∀ name ∈ members.names, name ∉ schema.properties.keys) (stream : RandomStream) :
    ∃ properties behind, members.rows.foldl step (within finished schema 0 stream) =
        within finished { schema with properties := properties } 0 behind ∧
      members.IsAdded schema.properties properties := by
  induction members generalizing schema stream with
  | none =>
    exact ⟨schema.properties, stream, rfl, (List.append_nil _).symm, fun _ _ => rfl, nofun⟩
  | field name type isList later inductionHypothesis =>
    rcases step_memberRow written.1 (isRowEnd_typeText written.2.1 isList) finished schema stream
      with ⟨property, behind, read, -⟩
    rw [if_neg (getLast?_typeText_ne written.2.1 isList)] at read
    rcases inductionHypothesis written.2.2 (List.nodup_cons.mp distinct).2
      { schema with properties := schema.properties.insert name property }
      (InterfaceMembers.fresh_insert rfl fresh distinct property) behind
      with ⟨properties, last, run, added⟩
    refine ⟨properties, last, ?_, added.cons rfl fresh distinct fun other member => Or.inl member⟩
    rw [InterfaceMembers.rows, List.foldl_cons, read, run]
  | object name inner later _ laterHypothesis =>
    have opens : ['{'].getLast? = some '{' := rfl
    rcases step_memberRow written.1 isRowEnd_brace finished schema stream
      with ⟨property, behind, read, object⟩
    rw [if_pos opens] at read
    rcases laterHypothesis written.2.2 (List.nodup_cons.mp distinct).2
      { schema with properties := schema.properties.insert name property }
      (InterfaceMembers.fresh_insert rfl fresh distinct property) behind
      with ⟨properties, last, run, added⟩
    refine ⟨properties, last, ?_, added.cons rfl fresh distinct fun other member => ?_⟩
    · rw [InterfaceMembers.rows, List.foldl_cons, read, List.foldl_append,
        foldl_step_rows_of_open written.2.1 0, List.foldl_cons, step_brace_of_open, run]
    · exact (List.mem_cons.mp member).symm.imp_right fun same => ⟨same, object rfl⟩

/-- An interface is read from its header to its last brace. -/
theorem foldl_step_interface (interface : WrittenInterface) (finished : List Schema)
    (stream : RandomStream) :
    ∃ schema behind, interface.rows.foldl step (between finished stream) =
        between (finished ++ [schema]) behind ∧ interface.IsReadAs schema := by
  have opened : step (between finished stream) interface.header =
      within finished ⟨interface.name, .interface, .empty⟩ 0 stream := by
    rw [step, interface.of_header]
    simp [between, within, close, schemas]
  rcases foldl_step_rows interface.written interface.distinct finished
    ⟨interface.name, .interface, .empty⟩ (fun _ _ => List.not_mem_nil) stream
    with ⟨properties, behind, run, added⟩
  have closed : step (within finished ⟨interface.name, .interface, properties⟩ 0 behind) ['}'] =
      between (finished ++ [⟨interface.name, .interface, properties⟩]) behind := by
    rw [step, of_brace]
    rfl
  refine ⟨⟨interface.name, .interface, properties⟩, behind, ?_, rfl, rfl, added.keys,
    added.objects⟩
  rw [WrittenInterface.rows, List.foldl_cons, opened, List.foldl_append, run, List.foldl_cons,
    closed, List.foldl_nil]

theorem foldl_step_interfaces (interfaces : List WrittenInterface) (finished : List Schema)
    (stream : RandomStream) :
    ∃ schemas behind,
      (interfaces.flatMap WrittenInterface.rows).foldl step (between finished stream) =
        between (finished ++ schemas) behind ∧
      List.Forall₂ WrittenInterface.IsReadAs interfaces schemas := by
  induction interfaces generalizing finished stream with
  | nil => exact ⟨[], stream, by rw [List.append_nil]; rfl, .nil⟩
  | cons interface others inductionHypothesis =>
    rcases foldl_step_interface interface finished stream with ⟨schema, next, first, read⟩
    rcases inductionHypothesis (finished ++ [schema]) next with ⟨schemas, behind, run, reads⟩
    refine ⟨schema :: schemas, behind, ?_, .cons read reads⟩
    rw [List.flatMap_cons, List.foldl_append, first, run, List.append_assoc,
      List.singleton_append]

end InterfaceScan

/-! ## Layouts are alike -/

/-- The interfaces of a source are read one by one, in order and under their names, each with its
own members in order and without those of the objects in it.  Every layout of the same interfaces
gives the same schemas with the same samples, and leaves the same random stream. -/
theorem readInterfaces_of_layout {interfaces : List WrittenInterface} {source : Source}
    (laid : IsLaidOut interfaces source) (stream : RandomStream) :
    List.Forall₂ WrittenInterface.IsReadAs interfaces (readInterfaces source stream).1 ∧
      ∀ other, IsLaidOut interfaces other →
        readInterfaces other stream = readInterfaces source stream := by
  constructor
  · rcases InterfaceScan.foldl_step_interfaces interfaces [] stream with
      ⟨schemas, behind, run, reads⟩
    have read : (readInterfaces source stream).1 = schemas := by
      rw [readInterfaces, laid.logicalLines_eq]
      change ((interfaces.flatMap WrittenInterface.rows).foldl InterfaceScan.step
        (InterfaceScan.between [] stream)).schemas = schemas
      rw [run]
      exact List.append_nil schemas
    rw [read]
    exact reads
  · intro other laid'
    rw [readInterfaces, laid'.logicalLines_eq, readInterfaces, laid.logicalLines_eq]

namespace Source

/-- A page with an object in an object. -/
def page : WrittenInterface where
  modifier := .exportedDefault
  name := "Page"
  members := .field "items" "User" true
    (.object "meta"
      (.field "total" "number" false
        (.object "next" (.field "id" "string" false .none) .none))
      (.field "email" "string" false .none))
  named := ⟨by decide, List.all_eq_true.mp (by decide)⟩
  written :=
    have identifier : ∀ name ∈ ["items", "User", "meta", "total", "number", "next", "id", "string",
        "email"], IsIdentifier name := by
      have named : ∀ name ∈ ["items", "User", "meta", "total", "number", "next", "id", "string",
          "email"], name ≠ "" ∧ name.toList.all Text.isNameChar = true := by
        decide +kernel
      exact fun name member => ⟨(named name member).1, List.all_eq_true.mp (named name member).2⟩
    ⟨identifier _ (by decide), identifier _ (by decide), identifier _ (by decide),
      ⟨identifier _ (by decide), identifier _ (by decide), identifier _ (by decide),
        ⟨identifier _ (by decide), identifier _ (by decide), trivial⟩, trivial⟩,
      identifier _ (by decide), identifier _ (by decide), trivial⟩
  distinct := by decide

/-- The page on one line. -/
def pageInRow : Source :=
  ⟨"app/interfaces/page.ts",
    "export default interface Page \x7b items: User[]; meta: \x7b total: number; " ++
      "next: \x7b id: string; \x7d; \x7d; email: string; \x7d"⟩

/-- The page with one member or brace per line. -/
def pageInLines : Source :=
  ⟨"app/interfaces/page.ts",
    "export default interface Page \x7b
  items: User[]
  meta: \x7b
    total: number;
    next: \x7b
      id: string
    \x7d
  \x7d;
  email: string;
\x7d
"⟩

theorem isLaidOut_pageInRow : IsLaidOut [page] pageInRow :=
  .inRow (by decide +kernel)

theorem isLaidOut_pageInLines : IsLaidOut [page] pageInLines := by
  apply IsLaidOut.inLines
  -- The characters of a literal are given at once, and not found by decoding it.
  unfold pageInLines
  rw [String.toList_ofList]
  decide +kernel

end Source

theorem readInterfaces_of_layout_page :
    IsLaidOut [Source.page] Source.pageInRow ∧ IsLaidOut [Source.page] Source.pageInLines ∧
      (readInterfaces Source.pageInRow (RandomStream.ofSeed 0)).1.map (·.properties.keys) =
        [["items", "meta", "email"]] ∧
      readInterfaces Source.pageInLines (RandomStream.ofSeed 0) =
        readInterfaces Source.pageInRow (RandomStream.ofSeed 0) := by
  have read := readInterfaces_of_layout Source.isLaidOut_pageInRow (RandomStream.ofSeed 0)
  refine ⟨Source.isLaidOut_pageInRow, Source.isLaidOut_pageInLines, ?_,
    read.2 _ Source.isLaidOut_pageInLines⟩
  generalize readInterfaces Source.pageInRow (RandomStream.ofSeed 0) = result at read
  rcases result with ⟨schemas, behind⟩
  rcases read.1 with _ | ⟨page, _ | _⟩
  rw [List.map_singleton, page.keys]
  rfl

end Routebook
