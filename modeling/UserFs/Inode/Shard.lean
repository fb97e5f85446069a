import UserFs.Inode.Id
import UserFs.KeyMap

/-!
# One shard of an inode table

A shard keeps the live IDs of the keys that belong to it, and counts for each ID how many
lookups the kernel holds. An ID is retired when the kernel has given all of them back;
retired IDs wait in a queue to be issued again with the next generation.

The shards of a table divide the inode numbers among them: shard `index` of `count` issues
the numbers `2 + index + count * sequence`, counted by `sequence`.
-/

namespace UserFs.Inode

/-- What is kept of a live ID: the node it stands for, the generation it was issued with, and
the lookups the kernel holds on it. -/
structure Record (κ : Type) where
  key : κ
  generation : Generation
  lookups : UInt64
  deriving DecidableEq

/-- What giving back lookups did. -/
inductive ForgetOutcome where
  /-- The last lookup was given back; the ID is no longer live. -/
  | retired
  /-- The ID stays live with this many lookups. -/
  | remaining (left : UInt64)
  /-- The root is never retired. -/
  | pinned
  /-- The ID is not live; nothing changed. -/
  | unknown
  /-- More lookups were given back than there were; the ID was retired all the same. -/
  | overForgotten (issued forgotten : UInt64)
  deriving DecidableEq, Repr

/-- The position of a shard among the shards of its table, and whether retired IDs are issued
again. -/
structure Slot where
  count : Nat
  index : Nat
  recycle : Bool
  deriving DecidableEq, Repr

/-- The ID with this sequence number, unless it is past the last 64-bit number. -/
def Slot.number? (slot : Slot) (sequence : Nat) : Option InodeId :=
  let raw := sequence * slot.count + InodeId.firstMinted.toNat + slot.index
  if raw < UInt64.size then some ⟨.ofNat raw⟩ else none

/-- The live IDs of one shard, by ID and by key, and the IDs that can be issued. -/
structure Shard (κ : Type) where
  records : KeyMap InodeId (Record κ)
  ids : KeyMap κ InodeId
  /-- The sequence number of the first ID that was never issued. -/
  nextSequence : Nat
  /-- The retired incarnations that wait to be reissued, the oldest first. -/
  free : List Incarnation

namespace Shard

variable {κ : Type}

/-- The shard that has issued nothing. -/
def empty : Shard κ := ⟨.empty, .empty, 0, []⟩

/-- How many IDs are live. -/
def liveCount (shard : Shard κ) : Nat := shard.records.size

/-- The record of a live ID. -/
def record? (shard : Shard κ) (id : InodeId) : Option (Record κ) := shard.records.get? id

variable [DecidableEq κ]

/-- The live ID of a key, with its record. -/
def live? (shard : Shard κ) (key : κ) : Option (InodeId × Record κ) :=
  (shard.ids.get? key).bind fun id => (shard.records.get? id).map fun record => (id, record)

/-- Adds a lookup to a live ID. -/
def addLookup (shard : Shard κ) (id : InodeId) : Shard κ :=
  { shard with
    records := shard.records.modify id fun record => { record with lookups := record.lookups + 1 } }

/-- Makes an incarnation live for a key, with a first lookup. -/
def issue (shard : Shard κ) (key : κ) (incarnation : Incarnation) : Shard κ :=
  { shard with
    ids := shard.ids.insert key incarnation.id
    records := shard.records.insert incarnation.id ⟨key, incarnation.generation, 1⟩ }

/-- Issues an ID to a key: the one that was retired first, in its next generation, or, where
none is waiting or none is ever reissued, the next number. There is no ID once the numbers
are used up. -/
def mint (slot : Slot) (shard : Shard κ) (key : κ) : Option Incarnation × Shard κ :=
  match if slot.recycle then shard.free else [] with
  | retired :: waiting =>
    let incarnation : Incarnation := ⟨retired.id, retired.generation.next⟩
    (some incarnation, { shard with free := waiting }.issue key incarnation)
  | [] =>
    match slot.number? shard.nextSequence with
    | none => (none, shard)
    | some id =>
      let incarnation : Incarnation := ⟨id, .initial⟩
      (some incarnation,
        { shard with nextSequence := shard.nextSequence + 1 }.issue key incarnation)

/-- The live ID of a key, with one more lookup, or a newly minted one. -/
def lookup (slot : Slot) (shard : Shard κ) (key : κ) : Option Incarnation × Shard κ :=
  match shard.live? key with
  | some (id, record) => (some ⟨id, record.generation⟩, shard.addLookup id)
  | none => shard.mint slot key

/-- Takes a live ID out of the shard; it waits to be reissued if IDs ever are. -/
def retire (slot : Slot) (shard : Shard κ) (id : InodeId) (record : Record κ) : Shard κ :=
  { shard with
    records := shard.records.erase id
    ids := shard.ids.erase record.key
    free := if slot.recycle then shard.free ++ [⟨id, record.generation⟩] else shard.free }

/-- Gives back `count` lookups of an ID, which is retired when none is left. -/
def forget (slot : Slot) (shard : Shard κ) (id : InodeId) (count : UInt64) :
    ForgetOutcome × Shard κ :=
  match shard.records.get? id with
  | none => (.unknown, shard)
  | some record =>
    if count < record.lookups then
      (.remaining (record.lookups - count),
        { shard with
          records := shard.records.modify id fun record =>
            { record with lookups := record.lookups - count } })
    else
      (if record.lookups < count then .overForgotten record.lookups count else .retired,
        shard.retire slot id record)

end Shard

end UserFs.Inode
