import SlotFilling.Yaml.Lexeme

/-!
# Nodes

A document is a tree of nodes. An anchor gives a node a number, and an alias names
such a number in place of a node. An alias may come before the node that it names,
and it may stand inside of it, so a document need not unfold to a finite tree.

Of several nodes with one number, aliases name the one that starts last.
-/
namespace SlotFilling.Yaml

/-- What a node is given besides its content. -/
structure Properties where
  /-- The number of its anchor. -/
  anchor : Option Nat := none
  tag : Option Tag := none
  deriving DecidableEq, Repr

inductive Node where
  | scalar (given : Properties) (style : ScalarStyle) (text : String)
  | sequence (given : Properties) (items : List Node)
  | mapping (given : Properties) (entries : List (Node × Node))
  /-- A place for the node whose anchor has some number. -/
  | alias (number : Nat)
  deriving Inhabited

namespace Node

/-- What stands where a value is left out. -/
def missing : Node := .scalar {} .plain ""

/-- The number of the anchor, if the node has one. -/
def anchor? : Node → Option Nat
  | .scalar given _ _ => given.anchor
  | .sequence given _ => given.anchor
  | .mapping given _ => given.anchor
  | .alias _ => none

mutual

/-- A node and all nodes below it, in the order in which they start. -/
def parts : Node → List Node
  | .sequence given items => .sequence given items :: partsOfItems items
  | .mapping given entries => .mapping given entries :: partsOfEntries entries
  | node => [node]

def partsOfItems : List Node → List Node
  | [] => []
  | item :: items => item.parts ++ partsOfItems items

def partsOfEntries : List (Node × Node) → List Node
  | [] => []
  | (key, value) :: entries => key.parts ++ value.parts ++ partsOfEntries entries

end

/-- The marks that a node makes without those below it: a collection has a start
and an end. -/
def marks : Node → Nat
  | .sequence _ _ => 2
  | .mapping _ _ => 2
  | .scalar _ _ _ => 1
  | .alias _ => 1

/-- The marks that a node makes together with all nodes below it. -/
def weight (node : Node) : Nat := node.parts.foldl (fun total part => total + part.marks) 0

/-- The nodes that aliases may name, with their numbers, the last one first. -/
def anchored (node : Node) : List (Nat × Node) :=
  (node.parts.filterMap fun part => part.anchor?.map (·, part)).reverse

end Node

end SlotFilling.Yaml
