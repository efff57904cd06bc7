import Routebook.Json

namespace Routebook

/-!
# Trees of input files

Options are written in YAML and route lists in JSON.  Both are trees, and the readers of
this library ask the same questions of either: is this a text, a truth value, a list, a set
of fields.  A leaf therefore carries the answers that its format gives.  The fields of a tree
are kept as they are written, so that a reader can refuse a key that is repeated.

The readers answer nothing where the tree does not fit.  A part of a file that its format
reads as nothing at all is an unreadable leaf, which does no harm where nobody asks for it.
-/

/-- A leaf, by what it can be read as. -/
structure Leaf where
  /-- Whether the leaf stands for a missing value, unless the leaf contradicts itself. -/
  isNull : Option Bool
  /-- Nothing is written where the leaf stands, so that it reads as an empty list or as no
  fields. -/
  isVoid : Bool
  text : Option String
  /-- The leaf as the name of one of several choices. -/
  choice : Option String
  flag : Option Bool
  natural : Option Nat
  /-- The leaf as a value, unless its format has no value for it. -/
  value : Option Json

/-- A tree of an input file.  A list or fields that are not `valued` can be asked for their
parts but are no value. -/
inductive Tree where
  | leaf (mark : Leaf)
  | list (valued : Bool) (items : List Tree)
  | fields (valued : Bool) (entries : List (String × Tree))

namespace Tree

def unreadable : Tree :=
  leaf ⟨none, false, none, none, none, none, none⟩

def isNull? : Tree → Option Bool
  | leaf mark => mark.isNull
  | _ => some false

def text? : Tree → Option String
  | leaf mark => mark.text
  | _ => none

def choice? : Tree → Option String
  | leaf mark => mark.choice
  | _ => none

def flag? : Tree → Option Bool
  | leaf mark => mark.flag
  | _ => none

/-- The tree as a natural number below `2 ^ 64`. -/
def natural? : Tree → Option Nat
  | leaf mark => mark.natural
  | _ => none

def list? : Tree → Option (List Tree)
  | list _ items => some items
  | leaf mark => if mark.isVoid then some [] else none
  | fields _ _ => none

def fields? : Tree → Option (List (String × Tree))
  | fields _ entries => some entries
  | leaf mark => if mark.isVoid then some [] else none
  | list _ _ => none

/-- A value that may be missing. -/
def optional? {α : Type} (read : Tree → Option α) (tree : Tree) : Option (Option α) :=
  tree.isNull?.bind fun missing => if missing then some none else (read tree).map some

def texts? (tree : Tree) : Option (List String) := do
  (← tree.list?).mapM text?

/-- Fields whose values are read alike.  A repeated key has its first place and its last
value. -/
def keyed? {α : Type} (read : Tree → Option α) (tree : Tree) : Option (Keyed α) := do
  let entries ← (← tree.fields?).mapM fun entry =>
    (read entry.2).map fun value => (entry.1, value)
  some (.ofList entries)

mutual

def value? : Tree → Option Json
  | leaf mark => mark.value
  | list valued items => if valued then (values? items).map .list else none
  | fields valued entries => if valued then (fieldValues? [] entries).map .object else none

def values? : List Tree → Option (List Json)
  | [] => some []
  | item :: rest =>
    match value? item, values? rest with
    | some value, some values => some (value :: values)
    | _, _ => none

/-- Fields as values, written over the fields before them. -/
def fieldValues? (before : List (String × Json)) :
    List (String × Tree) → Option (List (String × Json))
  | [] => some before
  | (key, tree) :: rest =>
    match value? tree with
    | some value => fieldValues? (insertEntry key value before) rest
    | none => none

end

/-! ## Records

The fields of a record are looked up by key.  A key that the record knows must not be
repeated, and unknown keys are passed over. -/

/-- The trees of the given keys in the order of the keys.  No result means that one of them
is repeated. -/
def record? (keys : List String) (fields : List (String × Tree)) : Option (List (Option Tree)) :=
  keys.mapM fun key =>
    match fields.filter (·.1 == key) with
    | [] => some none
    | [entry] => some (some entry.2)
    | _ => none

/-! ## Leaves that are values

These leaves read as what they are and as nothing else. -/

def null : Tree :=
  leaf ⟨some true, false, none, none, none, none, some .null⟩

def bool (value : Bool) : Tree :=
  leaf ⟨some false, false, none, none, some value, none, some (.bool value)⟩

def number (value : Number) : Tree :=
  leaf ⟨some false, false, none, none, none, none, some (.number value)⟩

def text (value : String) : Tree :=
  leaf ⟨some false, false, some value, some value, none, none, some (.text value)⟩

end Tree
end Routebook
