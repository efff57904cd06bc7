import Routebook.Yaml.Node

namespace Routebook
namespace Yaml

/-!
# Anchors and aliases

Anchors are numbered as they are met: the number is that of the different names in front of
it, an earlier anchor of its own name included.  An alias has the number of the last anchor of
its name in front of it, and stands for the last node of the whole document with that number.
So a name that is used again may move what the aliases of another name stand for, and an
alias may stand for a node that it is part of.
-/

/-- A node whose aliases are numbers. -/
abbrev Node.Linked := Node Nat

structure NumberedNode where
  number : Nat
  /-- How much of the document stands in front of the node. -/
  position : Nat
  node : Node.Linked

/-- The anchors met so far. -/
structure Anchors where
  /-- The scalars, aliases, and begins and ends of lists and mappings so far. -/
  position : Nat
  /-- The number of the last anchor of each name. -/
  numbers : List (List Char × Nat)
  nodes : List NumberedNode

namespace Anchors

def start : Anchors :=
  ⟨0, [], []⟩

/-- The anchors with a node begun, and the number of the node if it has an anchor. -/
def enter (anchors : Anchors) (name : Option (List Char)) : Option Nat × Anchors :=
  let next := { anchors with position := anchors.position + 1 }
  match name with
  | none => (none, next)
  | some name =>
    let number := anchors.numbers.length
    let others := anchors.numbers.filter (·.1 != name)
    (some number, { next with numbers := (name, number) :: others })

/-- The anchors with a node that has begun at a position. -/
def record (anchors : Anchors) (number : Option Nat) (position : Nat) (node : Node.Linked) :
    Anchors :=
  match number with
  | none => anchors
  | some number => { anchors with nodes := ⟨number, position, node⟩ :: anchors.nodes }

/-- The anchors behind the end of a list or a mapping. -/
def leave (anchors : Anchors) : Anchors :=
  { anchors with position := anchors.position + 1 }

/-- The last node of the document with a number. -/
def target? (anchors : Anchors) (number : Nat) : Option Node.Linked :=
  let later (best : Option NumberedNode) (next : NumberedNode) : Option NumberedNode :=
    if next.number == number && best.all (·.position < next.position) then some next else best
  (anchors.nodes.foldl later none).map (·.node)

def targets (anchors : Anchors) : Array (Option Node.Linked) :=
  ((List.range (anchors.numbers.length + 1)).map anchors.target?).toArray

end Anchors

namespace Node

mutual

/-- A node with its aliases numbered, and the anchors behind it.  Every alias must have an
anchor in front of it. -/
def link? (anchors : Anchors) : Written → Option (Linked × Anchors)
  | .scalar properties form text =>
    let (number, next) := anchors.enter properties.anchor
    let node := .scalar properties form text
    some (node, next.record number anchors.position node)
  | .list properties items =>
    let (number, next) := anchors.enter properties.anchor
    match linkItems? next items with
    | none => none
    | some (items, next) =>
      let node := .list properties items
      some (node, (next.record number anchors.position node).leave)
  | .mapping properties entries =>
    let (number, next) := anchors.enter properties.anchor
    match linkEntries? next entries with
    | none => none
    | some (entries, next) =>
      let node := .mapping properties entries
      some (node, (next.record number anchors.position node).leave)
  | .aliasOf name =>
    (anchors.numbers.find? (·.1 == name)).map fun entry =>
      (.aliasOf entry.2, (anchors.enter none).2)

def linkItems? (anchors : Anchors) : List Written → Option (List Linked × Anchors)
  | [] => some ([], anchors)
  | item :: rest =>
    match link? anchors item with
    | none => none
    | some (item, anchors) =>
      (linkItems? anchors rest).map fun (items, anchors) => (item :: items, anchors)

def linkEntries? (anchors : Anchors) :
    List (Written × Written) → Option (List (Linked × Linked) × Anchors)
  | [] => some ([], anchors)
  | (key, value) :: rest =>
    match link? anchors key with
    | none => none
    | some (key, anchors) =>
      match link? anchors value with
      | none => none
      | some (value, anchors) =>
        (linkEntries? anchors rest).map fun (entries, anchors) =>
          ((key, value) :: entries, anchors)

end

end Node
end Yaml
end Routebook
