import UserFs.Error
import UserFs.Request
import UserFs.Tree.Basic

/-!
# Why the tree filesystem refuses a request

Each cause has the kind of error that the kernel is told and the words that go with it.
-/

namespace UserFs.TreeFs

/-- The causes for which a request is refused. -/
inductive Refusal where
  /-- The ID was never issued, or was forgotten. -/
  | notLive (inode : InodeId)
  /-- The directory to look in is not in the tree. -/
  | parentGone
  /-- The node that was found is not in the tree. -/
  | childGone
  /-- The directory to open is not in the tree. -/
  | nodeGone
  /-- Something other than a directory was to be looked in. -/
  | lookupInNonDirectory (parent : InodeId) (name : Name)
  /-- The directory has no child of the name. -/
  | noSuchName (name : Name)
  /-- No inode number is left. -/
  | numbersExhausted
  /-- Something other than a directory was to be opened. -/
  | notADirectory (inode : InodeId)
  /-- A directory was to be opened for writing. -/
  | writeFlags (flags : OpenFlags)
  /-- The path leads nowhere. -/
  | noSuchPath (path : String)
  /-- The path leads to a directory, which has no size to change. -/
  | pathOfDirectory (path : String)
  deriving DecidableEq, Repr

namespace Refusal

/-- The kind of error that a cause is told as. -/
def kind : Refusal → ErrorKind
  | .notLive _ | .parentGone | .childGone | .nodeGone | .noSuchName _ | .noSuchPath _ => .notFound
  | .lookupInNonDirectory _ _ | .notADirectory _ => .notADirectory
  | .writeFlags _ => .permissionDenied
  | .numbersExhausted | .pathOfDirectory _ => .inputOutput

/-- A cause in words. -/
def context : Refusal → String
  | .notLive inode => "inode " ++ inode.text ++ " is not live"
  | .parentGone => "parent node is gone"
  | .childGone => "child node is gone"
  | .nodeGone => "node is gone"
  | .lookupInNonDirectory parent name => "lookup " ++ name.quoted ++ " in " ++ parent.text
  | .noSuchName name => name.quoted
  | .numbersExhausted => "inode number space exhausted"
  | .notADirectory inode => inode.text
  | .writeFlags flags => "directories can not be opened with " ++ flags.text
  | .noSuchPath path => "no such path " ++ Text.quote path
  | .pathOfDirectory path => Text.quote path ++ " is a directory"

/-- The error that a request ends with. -/
def toError (refusal : Refusal) : FsError := refusal.kind.toError refusal.context

end Refusal

end UserFs.TreeFs
