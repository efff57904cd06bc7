import Routebook.Yaml.Anchors
import Routebook.Yaml.Lexer

namespace Routebook
namespace Yaml

/-!
# Reading YAML

The one document of a text is read as a tree, as far as its reader asks for it.  What it does
not ask for only has to be well-formed.  Aliases are replaced by what they stand for.  An alias
may stand for a node around it, and a few aliases for a tree of any size, so there are two
limits: lists and mappings may be nested no deeper than `maxNesting`, and each part of the
document allows for `aliasesPerPart` replacements.
-/

/-! ## Scalars -/

def isLocalTag (tag : String) : Bool :=
  tag.toList.head? == some '!'

/-- The name in a tag of the document's own.  The sign alone is its own name. -/
def localName (tag : String) : String :=
  if tag == "!" then tag else String.ofList (tag.toList.drop 1)

/-- The value of a scalar.  A tag of the core schema says what the scalar is, whatever its
form; any other tag makes it a text, except that a tag of the document's own leaves it without
a value. -/
def scalarValue? (tag : Option String) (form : ScalarForm) (text : List Char) : Option Json :=
  match tag with
  | none => if form = .plain then plainValue? text else some (.text (String.ofList text))
  | some tag =>
    if isLocalTag tag then none
    else if tag == coreTag "bool" then (flag? text).map .bool
    else if tag == coreTag "int" then (integerValue? text).join
    else if tag == coreTag "float" then realValue? text
    else if tag == coreTag "null" then if isNullWord text then some .null else none
    else some (.text (String.ofList text))

/-- Whether a scalar stands for a missing value.  A scalar with the tag of null that is no word
for it contradicts itself. -/
def scalarIsNull (tag : Option String) (form : ScalarForm) (text : List Char) : Option Bool :=
  if form != .plain then some false
  else match tag with
    | none => some (text.isEmpty || isNullWord text)
    | some tag =>
      if tag == coreTag "null" then (if isNullWord text then some true else none)
      else some false

/-- A scalar as the name of a choice: its text, or the name in a tag of the document's own with
nothing behind it. -/
def scalarChoice? (tag : Option String) (form : ScalarForm) (text : List Char) : Option String :=
  match tag.filter isLocalTag with
  | none => some (String.ofList text)
  | some tag =>
    if form = .plain && (text.isEmpty || isNullWord text) then some (localName tag) else none

/-- A scalar as a leaf.  A truth value or a number that is asked for is read from a plain
scalar whatever its tag, and from a literal block with the tag of what is asked for. -/
def leaf (tag : Option String) (form : ScalarForm) (text : List Char) : Leaf :=
  let readsAs (name : String) : Bool :=
    form == .plain || (form == .literal && tag == some (coreTag name))
  { isNull := scalarIsNull tag form text
    isVoid := form == .plain && text.isEmpty
    text := some (String.ofList text)
    choice := scalarChoice? tag form text
    flag := if readsAs "bool" then flag? text else none
    natural := if readsAs "int" then natural? text else none
    value := scalarValue? tag form text }

/-! ## Trees -/

/-- What a reader asks of a tree.  It begins at a place; the items of a list and the fields of a
mapping have places in turn, and a field without a place is passed over. -/
structure Outline (Place : Type) where
  start : Place
  item : Place → Place
  field? : Place → String → Option Place

def maxNesting : Nat := 128

/-- For every scalar, alias, and begin or end of a list or a mapping of the document, so many
aliases may be replaced. -/
def aliasesPerPart : Nat := 100

/-- A reading that may replace a number of aliases and tells how many are left to it. -/
abbrev Limited := StateT Nat Option

/-- Replace an alias, which takes one of those that are left. -/
def Limited.replaceAlias : Limited Unit
  | 0 => none
  | left + 1 => some ((), left)

namespace Node

def resolve (targets : Array (Option Linked)) : Linked → Limited Linked
  | .aliasOf number => do
    Limited.replaceAlias
    StateT.lift (targets[number]?.join)
  | node => pure node

def keyText (targets : Array (Option Linked)) (key : Linked) : Limited String := do
  match ← resolve targets key with
  | .scalar _ _ text => pure (String.ofList text)
  | _ => failure

/-- A node with these properties may be a value. -/
def isValued (properties : Properties) : Bool :=
  properties.tag.all fun tag => !isLocalTag tag

/-- The tree of a node at a place, in which lists and mappings are nested no deeper than
`nesting`. -/
def tree {Place : Type} (outline : Outline Place) (targets : Array (Option Linked))
    (nesting : Nat) (place : Place) (node : Linked) : Limited Tree := do
  match ← resolve targets node, nesting with
  | .scalar properties form text, _ => pure (.leaf (leaf properties.tag form text))
  | .list properties items, nesting + 1 => do
    let trees ← items.mapM (tree outline targets nesting (outline.item place))
    pure (.list (isValued properties) trees)
  | .mapping properties entries, nesting + 1 => do
    let fields ← entries.filterMapM fun entry => do
      let key ← keyText targets entry.1
      match outline.field? place key with
      | some inner => do
        let field ← tree outline targets nesting inner entry.2
        pure (some (key, field))
      | none => pure none
    pure (.fields (isValued properties) fields)
  | _, _ => failure

end Node

def treeOf? {Place : Type} (outline : Outline Place) (document : Node.Written) : Option Tree := do
  let (node, anchors) ← document.link? .start
  let reading := node.tree outline anchors.targets maxNesting outline.start
  reading.run' (aliasesPerPart * anchors.position)

def read? {Place : Type} (outline : Outline Place) (text : List Char) : Option Tree := do
  treeOf? outline (← Node.ofDocument? (← tokens? text))

end Yaml
end Routebook
