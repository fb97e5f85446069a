import UserFs.Cache.Policy
import UserFs.Handle.Table
import UserFs.Inode.Table
import UserFs.Tree.Addition
import UserFs.TreeFs.Refusal

/-!
# A filesystem over a tree in memory

The filesystem joins a tree with an inode table, which gives the kernel IDs for its nodes,
and a handle table. IDs are minted when a node is first looked up and stay as long as the
kernel holds a lookup on them; every open of a directory has a handle of its own. Every
operation returns the state it leaves, also when it is refused.
-/

namespace UserFs

/-- What an open directory was opened as. -/
structure DirHandle where
  inode : InodeId
  flags : OpenFlags
  deriving DecidableEq, Repr

/-- The state of the filesystem. -/
structure TreeFs where
  tree : Tree
  inodes : Inode.Table NodeKey
  handles : Handle.Table DirHandle
  policy : CachePolicy

namespace TreeFs

/-- The filesystem of a tree before the first request. -/
def ofTree (tree : Tree) (policy : CachePolicy) (config : Inode.TableConfig)
    (hash : NodeKey → UInt64) : TreeFs where
  tree := tree
  inodes := .fresh .root config hash
  handles := .empty
  policy := policy

/-! ## What can be observed of it -/

/-- Whether an ID is the root's, or was returned by a lookup and not forgotten since. -/
def isValid (fs : TreeFs) (inode : InodeId) : Bool := fs.inodes.isValid inode

/-- The generation of a live ID. -/
def generation? (fs : TreeFs) (inode : InodeId) : Option Generation := fs.inodes.generation? inode

/-- Whether a handle is open. -/
def isOpen (fs : TreeFs) (handle : HandleId) : Bool := fs.handles.isOpen handle

/-- What an open handle was opened as. -/
def dirHandle? (fs : TreeFs) (handle : HandleId) : Option DirHandle := fs.handles.get? handle

/-- How many IDs besides the root's are live. -/
def liveInodes (fs : TreeFs) : Nat := fs.inodes.liveCount

/-- How many handles are open. -/
def openHandles (fs : TreeFs) : Nat := fs.handles.openCount

/-! ## Requests -/

/-- The node of a live ID. -/
def nodeKey (fs : TreeFs) (inode : InodeId) : Except Refusal NodeKey :=
  match fs.inodes.resolve? inode with
  | some key => .ok key
  | none => .error (.notLive inode)

/-- The node that a name means in a directory: the directory itself for `.`, its parent for
`..`, a child otherwise. -/
def designated? (key : NodeKey) (node : Node) (name : Name) : Option NodeKey :=
  if name = .dot then some key
  else if name = .dotDot then some node.parent
  else node.children.get? name

/-- The node that a lookup is about, and its attributes. -/
def resolveName (fs : TreeFs) (request : LookupRequest) : Except Refusal (NodeKey × Attributes) := do
  let parentKey ← fs.nodeKey request.parent
  match fs.tree.node? parentKey with
  | none => .error .parentGone
  | some parent =>
    if !parent.attributes.isDirectory then
      .error (.lookupInNonDirectory request.parent request.name)
    else
      match designated? parentKey parent request.name with
      | none => .error (.noSuchName request.name)
      | some childKey =>
        match fs.tree.node? childKey with
        | none => .error .childGone
        | some child => .ok (childKey, child.attributes)

/-- Finds the node that a name means in a directory, and counts the lookup on its ID. -/
def lookup (fs : TreeFs) (now : Instant) (request : LookupRequest) :
    Except Refusal Entry × TreeFs :=
  match fs.resolveName request with
  | .error refusal => (.error refusal, fs)
  | .ok (key, attributes) =>
    let (found, inodes) := fs.inodes.lookup key
    let fs := { fs with inodes := inodes }
    match found with
    | none => (.error .numbersExhausted, fs)
    | some incarnation =>
      (.ok ⟨incarnation.id, incarnation.generation, attributes, fs.policy.validity now⟩, fs)

/-- Takes back lookups of an ID. -/
def forget (fs : TreeFs) (request : ForgetRequest) : Inode.ForgetOutcome × TreeFs :=
  let (outcome, inodes) := fs.inodes.forget request.inode request.count
  (outcome, { fs with inodes := inodes })

/-- Whether a directory may be opened. That it is one is checked before its flags are. -/
def checkOpenDir (fs : TreeFs) (request : OpenDirRequest) : Except Refusal Unit := do
  let key ← fs.nodeKey request.inode
  match fs.tree.node? key with
  | none => .error .nodeGone
  | some node =>
    if !node.attributes.isDirectory then .error (.notADirectory request.inode)
    else if request.flags.requestsWrite then .error (.writeFlags request.flags)
    else .ok ()

/-- Opens a directory. -/
def openDir (fs : TreeFs) (request : OpenDirRequest) : Except Refusal HandleId × TreeFs :=
  match fs.checkOpenDir request with
  | .error refusal => (.error refusal, fs)
  | .ok () =>
    let (handle, handles) := fs.handles.openWith ⟨request.inode, request.flags⟩
    (.ok handle, { fs with handles := handles })

/-- Closes a handle and returns what it was opened as. -/
def release (fs : TreeFs) (request : ReleaseRequest) : Option DirHandle × TreeFs :=
  let (released, handles) := fs.handles.release request.handle
  (released, { fs with handles := handles })

/-- Changes the size of the file at a path. Later lookups see the new size. -/
def resize (fs : TreeFs) (path : String) (size : UInt64) : Except Refusal Unit × TreeFs :=
  match fs.tree.find? path with
  | none => (.error (.noSuchPath path), fs)
  | some key =>
    match fs.tree.node? key with
    | none => (.error (.noSuchPath path), fs)
    | some node =>
      if node.attributes.isDirectory then (.error (.pathOfDirectory path), fs)
      else (.ok (), { fs with tree := fs.tree.setSize key size })

end TreeFs

end UserFs
