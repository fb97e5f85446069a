import UserFs.Cache.Expiration
import UserFs.Clock
import UserFs.Handle.Id
import UserFs.Inode.Attributes
import UserFs.Inode.Id
import UserFs.Name
import UserFs.OpenFlags

/-!
# Requests and what they are answered with

The kernel's requests as the filesystem sees them: who asks, and what about.
-/

namespace UserFs

/-- The number of a request and the process that made it. -/
structure RequestInfo where
  id : UInt64
  uid : UInt32
  gid : UInt32
  pid : UInt32
  deriving DecidableEq, Repr

/-- The request as it stands in messages. -/
def RequestInfo.text (info : RequestInfo) : String :=
  "RequestInfo \x7b id: " ++ toString info.id.toNat ++ ", uid: " ++ toString info.uid.toNat ++
    ", gid: " ++ toString info.gid.toNat ++ ", pid: " ++ toString info.pid.toNat ++ " \x7d"

/-- What is known about a request besides its arguments: who makes it, and the time at which
it is worked on. -/
structure Context where
  info : RequestInfo
  now : Instant
  deriving DecidableEq

/-- Asks for the child of a directory by its name. -/
structure LookupRequest where
  parent : InodeId
  name : Name
  deriving DecidableEq, Repr

/-- The child that was found. Its ID stays valid until the kernel forgets it. -/
structure Entry where
  child : InodeId
  generation : Generation
  attributes : Attributes
  validity : Validity
  deriving DecidableEq

/-- Gives back lookups of an inode. -/
structure ForgetRequest where
  inode : InodeId
  /-- How many lookups are given back at once. -/
  count : UInt64
  deriving DecidableEq, Repr

/-- Gives back a single lookup. -/
def ForgetRequest.single (inode : InodeId) : ForgetRequest := ⟨inode, 1⟩

/-- Asks for a handle of a directory. -/
structure OpenDirRequest where
  inode : InodeId
  flags : OpenFlags
  deriving DecidableEq, Repr

/-- Gives back a handle. -/
structure ReleaseRequest where
  handle : HandleId
  deriving DecidableEq, Repr

end UserFs
