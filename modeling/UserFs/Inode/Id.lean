/-!
# Inode identifiers and their incarnations

The kernel knows a node by an inode ID. The filesystem mints every ID but the root's, and
may issue a forgotten ID again, together with the next generation: an ID with a generation
is one incarnation, and it is incarnations that stay distinct.
-/

namespace UserFs

/-- An inode number as the kernel sends it. -/
structure InodeId where
  raw : UInt64
  deriving DecidableEq, Ord, Repr

namespace InodeId

/-- The root of the filesystem: known to the kernel without a lookup, never reassigned. -/
def root : InodeId := ⟨1⟩

/-- The first number that can be minted, right after the root. -/
def firstMinted : UInt64 := 2

/-- Whether the ID is the root's. -/
def isRoot (id : InodeId) : Bool := id = root

/-- The ID as it stands in messages. -/
def text (id : InodeId) : String := "InodeId(" ++ toString id.raw.toNat ++ ")"

end InodeId

/-- Tells the incarnations of one inode ID apart. -/
structure Generation where
  raw : UInt64
  deriving DecidableEq, Ord, Repr

namespace Generation

/-- The generation of an ID that is issued for the first time. -/
def initial : Generation := ⟨0⟩

/-- The generation of an ID that is issued again; the last one is followed by the first. -/
def next (generation : Generation) : Generation := ⟨generation.raw + 1⟩

/-- The generation as it stands in messages. -/
def text (generation : Generation) : String :=
  "Generation(" ++ toString generation.raw.toNat ++ ")"

end Generation

/-- An inode ID together with the generation it was issued with. -/
structure Incarnation where
  id : InodeId
  generation : Generation
  deriving DecidableEq, Repr

/-- The only incarnation of the root. -/
def Incarnation.root : Incarnation := ⟨InodeId.root, Generation.initial⟩

end UserFs
