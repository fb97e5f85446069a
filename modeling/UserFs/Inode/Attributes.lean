/-!
# Attributes of a node

Size and kind are all that is tracked of a node; a lookup hands out a copy of them.
-/

namespace UserFs

/-- What a node is. -/
inductive FileKind where
  | namedPipe
  | charDevice
  | blockDevice
  | directory
  | regularFile
  | symlink
  | socket
  deriving DecidableEq, Repr

/-- The size of a node in bytes, and what it is. -/
structure Attributes where
  size : UInt64
  kind : FileKind
  deriving DecidableEq, Repr

namespace Attributes

/-- The attributes of a directory; its size is zero. -/
def directory : Attributes := ⟨0, .directory⟩

/-- The attributes of a regular file of `size` bytes. -/
def regularFile (size : UInt64) : Attributes := ⟨size, .regularFile⟩

/-- Whether the node is a directory. -/
def isDirectory (attributes : Attributes) : Bool := attributes.kind = .directory

end Attributes

end UserFs
