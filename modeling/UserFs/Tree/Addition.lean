import UserFs.Log
import UserFs.Tree.Basic

/-!
# Growing a tree by paths

A tree is described by additions: each gives a path from the root and the attributes that
the node there shall have. Directories missing on the way are created. An addition that
makes no sense is left out, with a warning.
-/

namespace UserFs

/-- A node to be added, or to get new attributes if it is there. -/
structure Addition where
  path : String
  attributes : Attributes
  deriving DecidableEq, Repr

namespace Addition

/-- A directory. -/
def dir (path : String) : Addition := ⟨path, .directory⟩

/-- A file of `size` bytes. -/
def file (path : String) (size : UInt64) : Addition := ⟨path, .regularFile size⟩

/-- Why an addition was left out. -/
inductive Ignored where
  /-- The path has no component. -/
  | emptyPath (path : String)
  /-- A component on the way is something other than a directory. -/
  | notADirectory (path component : String)
  deriving DecidableEq, Repr

/-- The warning about an addition that was left out. -/
def Ignored.message : Ignored → String
  | .emptyPath path => "ignoring empty path " ++ Text.quote path
  | .notADirectory path component =>
    "ignoring " ++ Text.quote path ++ ": " ++ Text.quote component ++ " is not a directory"

end Addition

namespace Tree

/-- The child of a node under a name, which becomes a new directory if there is none. -/
def enter (tree : Tree) (parent : NodeKey) (name : Name) : NodeKey × Tree :=
  match tree.child? parent name with
  | some child => (child, tree)
  | none => tree.addChild parent name .directory

/-- Gives the child of a node under a name these attributes, creating it if there is none. -/
def put (tree : Tree) (parent : NodeKey) (name : Name) (attributes : Attributes) : Tree :=
  match tree.child? parent name with
  | some child => tree.setAttributes child attributes
  | none => (tree.addChild parent name attributes).2

/-- Follows the remaining components of an addition's path from `current` and puts the node
at their end. -/
def addBelow (addition : Addition) :
    List String → NodeKey → Tree → Option Addition.Ignored × Tree
  | [], _, tree => (some (.emptyPath addition.path), tree)
  | [last], current, tree => (none, tree.put current (.ofString last) addition.attributes)
  | component :: next :: rest, current, tree =>
    let (entered, tree) := tree.enter current (.ofString component)
    if tree.isDirectory entered then addBelow addition (next :: rest) entered tree
    else (some (.notADirectory addition.path component), tree)

/-- Makes one addition, or says why it was left out. -/
def add (tree : Tree) (addition : Addition) : Option Addition.Ignored × Tree :=
  addBelow addition (pathComponents addition.path) .root tree

/-- The tree that additions describe, made in order, and why some were left out. -/
def addAll (tree : Tree) : List Addition → List Addition.Ignored × Tree
  | [] => ([], tree)
  | addition :: rest =>
    let (ignored, tree) := tree.add addition
    let (others, tree) := tree.addAll rest
    (ignored.toList ++ others, tree)

end Tree

end UserFs
