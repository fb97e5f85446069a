import UserFs.Request

/-!
# Replies to lookups

The reply to a lookup has one time for which the kernel may cache the name and the
attributes together, although the filesystem gave each a deadline of its own. The shorter
window is sent, so that the kernel never serves anything past its deadline.
-/

namespace UserFs

/-- The bits that stand for the kind of a file in a mode. -/
def FileKind.modeBits : FileKind → Nat
  | .namedPipe => 0o010000
  | .charDevice => 0o020000
  | .directory => 0o040000
  | .blockDevice => 0o060000
  | .regularFile => 0o100000
  | .symlink => 0o120000
  | .socket => 0o140000

/-- The full record of an inode that the kernel expects. -/
structure InodeRecord where
  ino : InodeId
  size : UInt64
  /-- The size in blocks of 512 bytes, the last of which may be partly filled. -/
  blocks : Nat
  atime : Instant
  mtime : Instant
  ctime : Instant
  crtime : Instant
  kind : FileKind
  perm : Nat
  nlink : Nat
  uid : UInt32
  gid : UInt32
  rdev : Nat
  blksize : Nat
  flags : Nat
  deriving DecidableEq

namespace InodeRecord

/-- The size of the blocks in which sizes are counted. -/
def blockSize : Nat := 512

/-- The record for attributes of which only size and kind are known. The owner is whoever
asks, since permissions are not enforced; the other fields have neutral values. -/
def ofAttributes (ino : InodeId) (attributes : Attributes) (info : RequestInfo) : InodeRecord where
  ino := ino
  size := attributes.size
  blocks := (attributes.size.toNat + (blockSize - 1)) / blockSize
  atime := .epoch
  mtime := .epoch
  ctime := .epoch
  crtime := .epoch
  kind := attributes.kind
  perm := if attributes.isDirectory then 0o755 else 0o644
  nlink := if attributes.isDirectory then 2 else 1
  uid := info.uid
  gid := info.gid
  rdev := 0
  blksize := blockSize
  flags := 0

/-- Kind and permissions in one number. -/
def mode (record : InodeRecord) : Nat := record.kind.modeBits ||| record.perm

end InodeRecord

/-- The reply to a lookup. -/
structure EntryReply where
  /-- The time for which name and attributes may be cached. -/
  ttl : Span
  record : InodeRecord
  generation : Generation
  deriving DecidableEq

/-- The reply that is sent for an entry at `now`. -/
def EntryReply.ofEntry (entry : Entry) (info : RequestInfo) (now : Instant) : EntryReply where
  ttl := entry.validity.common now
  record := .ofAttributes entry.child entry.attributes info
  generation := entry.generation

end UserFs
