import Routebook.Yaml.Token

namespace Routebook
namespace Yaml

/-!
# Nodes of a YAML document

A document is a tree of scalars, lists and mappings.  A node may be given a name by an anchor,
and an alias stands for the node with that name; a tag may say what a node is.

The functions over nodes call each other with a budget that every call lowers by one.  Every
second call takes a token, so that a budget of twice the number of tokens never runs out.
Tokens that are no document have no node.
-/

/-- What is written in front of a node. -/
structure Properties where
  anchor : Option (List Char)
  tag : Option String
  deriving DecidableEq, Repr

def Properties.none : Properties :=
  ⟨.none, .none⟩

/-- A node, whose aliases refer to other nodes in some way. -/
inductive Node (Reference : Type) where
  | scalar (properties : Properties) (form : ScalarForm) (text : List Char)
  | list (properties : Properties) (items : List (Node Reference))
  | mapping (properties : Properties) (entries : List (Node Reference × Node Reference))
  | aliasOf (target : Reference)

namespace Node

/-- A node whose aliases are names, as they are written. -/
abbrev Written := Node (List Char)

/-- The node where nothing is written. -/
def void {Reference : Type} : Node Reference :=
  scalar .none .plain []

/-! ## Properties -/

def takeAnchor : List Token → Option (List Char) × List Token
  | .anchor name :: rest => (some name, rest)
  | tokens => (none, tokens)

def takeTag : List Token → Option TagText × List Token
  | .tag text :: rest => (some text, rest)
  | tokens => (none, tokens)

/-- The properties at the head of tokens: an anchor and a tag in either order. -/
def takeProperties? (handles : Handles) (tokens : List Token) :
    Option (Properties × List Token) :=
  let (anchor, rest) := takeAnchor tokens
  let (tag, rest) := takeTag rest
  let (anchor, rest) := if anchor.isSome then (anchor, rest) else takeAnchor rest
  match tag with
  | none => some (⟨anchor, none⟩, rest)
  | some text => (text.resolve? handles).map fun tag => (⟨anchor, some tag⟩, rest)

/-! ## Nodes of tokens -/

/-- A token that ends an item of a block. -/
def endsItem : Option Token → Bool
  | some .blockEntry | some .blockEnd => true
  | _ => false

/-- A token that ends a key or a value of a block. -/
def endsField : Option Token → Bool
  | some .key | some .value | some .blockEnd => true
  | _ => false

/-- A token that ends an item at the column of the block around its list. -/
def endsLevelItem (token : Option Token) : Bool :=
  endsItem token || endsField token

mutual

/-- A node.  `block` tells that a block may begin here, and `level` that the items of a list
may stand at the column of the block around it. -/
def ofTokens? (budget : Nat) (handles : Handles) (block level : Bool) (tokens : List Token) :
    Option (Written × List Token) :=
  match budget with
  | 0 => none
  | budget + 1 =>
    match tokens with
    | .aliasOf name :: rest => some (.aliasOf name, rest)
    | _ =>
      match takeProperties? handles tokens with
      | none => none
      | some (properties, tokens) =>
        let list (result : Option (List Written × List Token)) :=
          result.map fun (items, rest) => (Node.list properties items, rest)
        let mapping (result : Option (List (Written × Written) × List Token)) :=
          result.map fun (entries, rest) => (Node.mapping properties entries, rest)
        match tokens, block, level with
        | .blockEntry :: _, _, true => list (levelItems budget handles [] tokens)
        | .scalar form text :: rest, _, _ => some (.scalar properties form text, rest)
        | .flowListStart :: rest, _, _ => list (flowItems budget handles true [] rest)
        | .flowMappingStart :: rest, _, _ => mapping (flowEntries budget handles true [] rest)
        | .blockListStart :: rest, true, _ => list (blockItems budget handles [] rest)
        | .blockMappingStart :: rest, true, _ => mapping (blockEntries budget handles [] rest)
        | _, _, _ =>
          if properties == .none then none else some (.scalar properties .plain [], tokens)

/-- The items of a list that is indented more deeply than the block around it, behind those
read before. -/
def blockItems (budget : Nat) (handles : Handles) (before : List Written)
    (tokens : List Token) : Option (List Written × List Token) :=
  match budget with
  | 0 => none
  | budget + 1 =>
    match tokens with
    | .blockEntry :: rest =>
      if endsItem rest.head? then blockItems budget handles (.void :: before) rest
      else do
        let (item, rest) ← ofTokens? budget handles true false rest
        blockItems budget handles (item :: before) rest
    | .blockEnd :: rest => some (before.reverse, rest)
    | _ => none

def levelItems (budget : Nat) (handles : Handles) (before : List Written)
    (tokens : List Token) : Option (List Written × List Token) :=
  match budget with
  | 0 => none
  | budget + 1 =>
    match tokens with
    | .blockEntry :: rest =>
      if endsLevelItem rest.head? then levelItems budget handles (.void :: before) rest
      else do
        let (item, rest) ← ofTokens? budget handles true false rest
        levelItems budget handles (item :: before) rest
    | _ => some (before.reverse, tokens)

/-- A key or a value of block style, void if nothing is written. -/
def blockField (budget : Nat) (handles : Handles) (tokens : List Token) :
    Option (Written × List Token) :=
  match budget with
  | 0 => none
  | budget + 1 =>
    if endsField tokens.head? then some (.void, tokens)
    else ofTokens? budget handles true true tokens

def blockEntries (budget : Nat) (handles : Handles) (before : List (Written × Written))
    (tokens : List Token) : Option (List (Written × Written) × List Token) :=
  match budget with
  | 0 => none
  | budget + 1 =>
    match tokens with
    | .key :: rest => do
      let (key, rest) ← blockField budget handles rest
      let (value, rest) ←
        match rest with
        | .value :: rest => blockField budget handles rest
        | _ => some (.void, rest)
      blockEntries budget handles ((key, value) :: before) rest
    | .blockEnd :: rest => some (before.reverse, rest)
    | _ => none

/-- The value of flow style behind its mark, void in front of a token that ends it. -/
def flowValue (budget : Nat) (handles : Handles) (closing : Token) (tokens : List Token) :
    Option (Written × List Token) :=
  match budget with
  | 0 => none
  | budget + 1 =>
    match tokens with
    | .value :: rest =>
      if rest.head? == some .flowEntry || rest.head? == some closing then some (.void, rest)
      else ofTokens? budget handles false false rest
    | _ => some (.void, tokens)

/-- The items of a list of flow style.  A pair among them is a mapping of one entry.  Where
nothing is written behind the sign of a key, the token there is passed over. -/
def flowItems (budget : Nat) (handles : Handles) (first : Bool) (before : List Written)
    (tokens : List Token) : Option (List Written × List Token) :=
  match budget with
  | 0 => none
  | budget + 1 =>
    match tokens with
    | .flowListEnd :: rest => some (before.reverse, rest)
    | _ => do
      let tokens ←
        match first, tokens with
        | true, _ => some tokens
        | false, .flowEntry :: rest => some rest
        | false, _ => none
      match tokens with
      | .flowListEnd :: rest => some (before.reverse, rest)
      | .key :: rest => do
        let (key, rest) ←
          match rest with
          | .value :: rest | .flowEntry :: rest | .flowListEnd :: rest => some (.void, rest)
          | _ => ofTokens? budget handles false false rest
        let (value, rest) ← flowValue budget handles .flowListEnd rest
        flowItems budget handles false (.mapping .none [(key, value)] :: before) rest
      | _ => do
        let (item, rest) ← ofTokens? budget handles false false tokens
        flowItems budget handles false (item :: before) rest

/-- The entries of a mapping of flow style.  A node that is no key has no value. -/
def flowEntries (budget : Nat) (handles : Handles) (first : Bool)
    (before : List (Written × Written)) (tokens : List Token) :
    Option (List (Written × Written) × List Token) :=
  match budget with
  | 0 => none
  | budget + 1 =>
    match tokens with
    | .flowMappingEnd :: rest => some (before.reverse, rest)
    | _ => do
      let tokens ←
        match first, tokens with
        | true, _ => some tokens
        | false, .flowEntry :: rest => some rest
        | false, _ => none
      match tokens with
      | .flowMappingEnd :: rest => some (before.reverse, rest)
      | .key :: rest => do
        let (key, rest) ←
          match rest with
          | .value :: _ | .flowEntry :: _ | .flowMappingEnd :: _ => some (.void, rest)
          | _ => ofTokens? budget handles false false rest
        let (value, rest) ← flowValue budget handles .flowMappingEnd rest
        flowEntries budget handles false ((key, value) :: before) rest
      | _ => do
        let (key, rest) ← ofTokens? budget handles false false tokens
        flowEntries budget handles false ((key, .void) :: before) rest

end

/-! ## Documents -/

/-- The directives at the head of tokens.  The version is told once at most and is 1.1 or 1.2,
and a handle is explained once at most. -/
def takeDirectives? (versioned : Bool) (handles : Handles) :
    List Token → Option (Handles × List Token)
  | .version major minor :: rest =>
    if versioned || major != 1 || !(minor == 1 || minor == 2) then none
    else takeDirectives? true handles rest
  | .handle name start :: rest =>
    if handles.any (·.1 == name) then none
    else takeDirectives? versioned (handles ++ [(name, start)]) rest
  | tokens => some (handles ++ .standard, tokens)

/-- A token that only stands outside of the content of a document. -/
def isOutside : Token → Bool
  | .version _ _ | .handle _ _ | .documentStart | .documentEnd => true
  | _ => false

/-- The content of a document, which a mark announces if it has directives. -/
def content? (tokens : List Token) : Option (Written × List Token) :=
  let budget := 2 * tokens.length + 2
  match tokens with
  | [] => some (.void, [])
  | first :: _ =>
    if isOutside first && first != .documentEnd then do
      match ← takeDirectives? false [] tokens with
      | (handles, .documentStart :: rest) =>
        if rest.head?.all isOutside then some (.void, rest)
        else ofTokens? budget handles true false rest
      | _ => none
    else ofTokens? budget .standard true false tokens

def ofDocument? (tokens : List Token) : Option Written :=
  match content? tokens with
  | some (node, rest) => if rest.all (· == .documentEnd) then some node else none
  | none => none

end Node
end Yaml
end Routebook
