import UserFs.Inode.Shard

/-!
# The inode table

The table knows each node by a key of the filesystem behind it and gives the kernel an ID
for it. Keys are spread over shards by a hash, and an ID shows by its number which shard it
is from, so whatever concerns one key or one ID happens in one shard. The root has an ID
without being looked up: it is in no shard, is never counted and never retired.
-/

namespace UserFs.Inode

/-- How a table is set up. -/
structure TableConfig where
  /-- How many shards there are; no shard counts as one. -/
  shards : Nat
  /-- Whether retired IDs are issued again, in their next generation. -/
  recycle : Bool
  deriving DecidableEq, Repr

/-- Sixteen shards, with IDs issued again. -/
def TableConfig.standard : TableConfig := ⟨16, true⟩

/-- The IDs that the kernel knows, and the keys they stand for. -/
structure Table (κ : Type) where
  rootKey : κ
  recycle : Bool
  /-- Spreads the keys over the shards. -/
  hash : κ → UInt64
  shards : Array (Shard κ)
  shards_pos : 0 < shards.size

namespace Table

variable {κ : Type}

/-- The table in which only the root is known. -/
def fresh (rootKey : κ) (config : TableConfig) (hash : κ → UInt64) : Table κ where
  rootKey := rootKey
  recycle := config.recycle
  hash := hash
  shards := Array.replicate (max config.shards 1) .empty
  shards_pos := by rw [Array.size_replicate]; omega

/-- The shard that a key belongs to. -/
def shardOfKey (table : Table κ) (key : κ) : Fin table.shards.size :=
  ⟨(table.hash key).toNat % table.shards.size, Nat.mod_lt _ table.shards_pos⟩

/-- The shard that an ID is from; the numbers up to the root's are from none. -/
def shardOfId? (table : Table κ) (id : InodeId) : Option (Fin table.shards.size) :=
  if id.raw < InodeId.firstMinted then none
  else some ⟨(id.raw.toNat - InodeId.firstMinted.toNat) % table.shards.size,
    Nat.mod_lt _ table.shards_pos⟩

/-- The slot of a shard of the table. -/
def slot (table : Table κ) (index : Fin table.shards.size) : Slot :=
  ⟨table.shards.size, index, table.recycle⟩

/-- Puts another shard in the place of one. -/
def setShard (table : Table κ) (index : Fin table.shards.size) (shard : Shard κ) : Table κ :=
  { table with
    shards := table.shards.set index shard
    shards_pos := by rw [Array.size_set]; exact table.shards_pos }

/-- The record of a live ID other than the root. -/
def record? (table : Table κ) (id : InodeId) : Option (Record κ) :=
  (table.shardOfId? id).bind fun index => table.shards[index].record? id

/-- The key that a live ID stands for. -/
def resolve? (table : Table κ) (id : InodeId) : Option κ :=
  if id.isRoot then some table.rootKey else (table.record? id).map (·.key)

/-- The generation of a live ID. -/
def generation? (table : Table κ) (id : InodeId) : Option Generation :=
  if id.isRoot then some .initial else (table.record? id).map (·.generation)

/-- The lookups that the kernel holds on a live ID; on the root they are not counted. -/
def lookupCount? (table : Table κ) (id : InodeId) : Option UInt64 :=
  (table.record? id).map (·.lookups)

/-- Whether an ID is the root's, or was returned by a lookup and not retired since. -/
def isValid (table : Table κ) (id : InodeId) : Bool := (table.generation? id).isSome

/-- How many IDs besides the root's are live. -/
def liveCount (table : Table κ) : Nat :=
  (table.shards.toList.map Shard.liveCount).foldr (· + ·) 0

variable [DecidableEq κ]

/-- The live ID of a key, with one more lookup, or a newly minted one. Only when the inode
numbers are used up there is none. -/
def lookup (table : Table κ) (key : κ) : Option Incarnation × Table κ :=
  if key = table.rootKey then (some .root, table)
  else
    let index := table.shardOfKey key
    let (incarnation, shard) := table.shards[index].lookup (table.slot index) key
    (incarnation, table.setShard index shard)

/-- Gives back `count` lookups of an ID, which is retired when none is left. -/
def forget (table : Table κ) (id : InodeId) (count : UInt64) : ForgetOutcome × Table κ :=
  if id.isRoot then (.pinned, table)
  else
    match table.shardOfId? id with
    | none => (.unknown, table)
    | some index =>
      let (outcome, shard) := table.shards[index].forget (table.slot index) id count
      (outcome, table.setShard index shard)

end Table

end UserFs.Inode
