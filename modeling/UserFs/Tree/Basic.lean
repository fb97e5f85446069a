import UserFs.Inode.Attributes
import UserFs.KeyMap
import UserFs.Name

/-!
# Trees of nodes

A tree keeps its nodes in one array and names each by its position there. A node knows its
attributes, its parent and, by name, its children; nodes are added and changed but never
removed, so a key stays good. The first node is the root, which is its own parent.
-/

namespace UserFs

/-- The position of a node, which tells it from all others of its tree. -/
structure NodeKey where
  index : Nat
  deriving DecidableEq, Repr

/-- The key of the root. -/
def NodeKey.root : NodeKey := ⟨0⟩

/-- A directory or a file. -/
structure Node where
  parent : NodeKey
  attributes : Attributes
  children : KeyMap Name NodeKey

/-- The nodes of a tree, each at the position that its key gives. -/
structure Tree where
  nodes : Array Node

namespace Tree

/-- The tree that is an empty root directory. -/
def rootOnly : Tree := ⟨#[⟨.root, .directory, .empty⟩]⟩

/-- The node with this key. -/
def node? (tree : Tree) (key : NodeKey) : Option Node := tree.nodes[key.index]?

/-- The key that the next node will have. -/
def nextKey (tree : Tree) : NodeKey := ⟨tree.nodes.size⟩

/-- Whether the key is that of a directory. -/
def isDirectory (tree : Tree) (key : NodeKey) : Bool :=
  (tree.node? key).any (·.attributes.isDirectory)

/-- The child of a node under a name. -/
def child? (tree : Tree) (parent : NodeKey) (name : Name) : Option NodeKey :=
  (tree.node? parent).bind (·.children.get? name)

/-- Changes one node. -/
def modifyNode (tree : Tree) (key : NodeKey) (change : Node → Node) : Tree :=
  ⟨tree.nodes.modify key.index change⟩

/-- Replaces the attributes of a node; its children stay. -/
def setAttributes (tree : Tree) (key : NodeKey) (attributes : Attributes) : Tree :=
  tree.modifyNode key fun node => { node with attributes := attributes }

/-- Replaces the size of a node. -/
def setSize (tree : Tree) (key : NodeKey) (size : UInt64) : Tree :=
  tree.modifyNode key fun node => { node with attributes := { node.attributes with size := size } }

/-- Adds a node without children and links it to its parent. -/
def addChild (tree : Tree) (parent : NodeKey) (name : Name) (attributes : Attributes) :
    NodeKey × Tree :=
  let key := tree.nextKey
  let grown : Tree := ⟨tree.nodes.push ⟨parent, attributes, .empty⟩⟩
  (key, grown.modifyNode parent fun node =>
    { node with children := node.children.insert name key })

/-- Follows names downwards from a node. What kind of nodes the names lead through is not
asked. -/
def descend? (tree : Tree) : NodeKey → List Name → Option NodeKey
  | key, [] => some key
  | key, name :: names => (tree.child? key name).bind fun next => tree.descend? next names

/-- The node that a path leads to from the root. -/
def find? (tree : Tree) (path : String) : Option NodeKey :=
  tree.descend? .root ((pathComponents path).map Name.ofString)

end Tree

end UserFs
