import LifecycleHooks.FileTree.Node
import LifecycleHooks.Numbered

/-!
A tree of files: names that lead to nodes by their numbers, so that a node may have several names.
-/

namespace LifecycleHooks

/-- The names that lead from the root to a place in a tree. Names are texts of octets. -/
abbrev Location := List String

/-- Places with the numbers of what is there, and nodes by their numbers. The root has the number
zero, and its node is not kept. -/
structure FileTree where
  entries : List (Location × Nat)
  nodes : Numbered Node
  fresh : Nat

namespace FileTree

def empty : FileTree := ⟨[], [], 1⟩

def root : Node := Node.ofDirectory 0

def number? (tree : FileTree) (location : Location) : Option Nat :=
  if location.isEmpty then some 0
  else (tree.entries.find? fun entry => entry.1 == location).map Prod.snd

def node? (tree : FileTree) (number : Nat) : Option Node :=
  if number = 0 then some root else tree.nodes.find? number

def find? (tree : FileTree) (location : Location) : Option Node :=
  (tree.number? location).bind tree.node?

def isDirectory (tree : FileTree) (location : Location) : Bool :=
  (tree.find? location).any Node.isDirectory

def enter (tree : FileTree) (location : Location) (number : Nat) : FileTree :=
  { tree with
    entries := (location, number) :: tree.entries.filter fun entry => entry.1 != location }

def put (tree : FileTree) (location : Location) (node : Node) : FileTree :=
  { tree.enter location tree.fresh with
    nodes := (tree.fresh, node) :: tree.nodes, fresh := tree.fresh + 1 }

def change (tree : FileTree) (number : Nat) (f : Node → Node) : FileTree :=
  { tree with nodes := tree.nodes.change number f }

def remove (tree : FileTree) (location : Location) : FileTree :=
  { tree with entries := tree.entries.filter fun entry => !location.isPrefixOf entry.1 }

def move (tree : FileTree) (source target : Location) : FileTree :=
  let relocate (entry : Location × Nat) : Location × Nat :=
    if source.isPrefixOf entry.1 then (target ++ entry.1.drop source.length, entry.2) else entry
  { tree with entries := (tree.remove target).entries.map relocate }

def children (tree : FileTree) (location : Location) : List String :=
  tree.entries.filterMap fun entry =>
    if entry.1.dropLast == location then entry.1.getLast? else none

def links (tree : FileTree) (number : Nat) : Nat :=
  (tree.entries.filter fun entry => entry.2 == number).length

def ancestors (location : Location) : List Location :=
  (List.range location.length).filterMap fun n => if n = 0 then none else some (location.take n)

def missingAncestors (tree : FileTree) (location : Location) : List Location :=
  (ancestors location).filter fun place => (tree.find? place).isNone

def putDeep (tree : FileTree) (location : Location) (node : Node) : FileTree :=
  ((tree.missingAncestors location).foldl
    (fun tree place => tree.put place (Node.ofDirectory node.modified)) tree).put location node

end FileTree

end LifecycleHooks
