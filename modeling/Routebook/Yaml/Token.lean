import Routebook.Yaml.Tag

namespace Routebook
namespace Yaml

/-!
# Tokens

A document is a sequence of tokens.  In block style the nesting is written by indentation; its
tokens say where a list or a mapping begins and where a block ends.
-/

/-- How a scalar is written. -/
inductive ScalarForm where
  | plain
  /-- As a literal block. -/
  | literal
  /-- In quotes, or as a folded block. -/
  | quoted
  deriving DecidableEq, Repr

inductive Token where
  /-- The directive of the version. -/
  | version (major minor : Nat)
  /-- The directive that says what a handle stands for. -/
  | handle (name start : List Char)
  | documentStart
  | documentEnd
  | blockListStart
  | blockMappingStart
  | blockEnd
  | flowListStart
  | flowListEnd
  | flowMappingStart
  | flowMappingEnd
  /-- The hyphen of an item. -/
  | blockEntry
  /-- The comma between items or entries. -/
  | flowEntry
  /-- A key follows. -/
  | key
  | value
  | aliasOf (name : List Char)
  | anchor (name : List Char)
  | tag (text : TagText)
  | scalar (form : ScalarForm) (text : List Char)
  deriving DecidableEq, Repr

end Yaml
end Routebook
