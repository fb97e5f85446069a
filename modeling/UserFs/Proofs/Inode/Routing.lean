import UserFs.Inode.Table
import UserFs.Proofs.Inode.Consistency

/-!
# From shards to the table

A key is routed to its shard by its hash and an ID by its number. `Table.Wf` says that every
shard is consistent and holds the keys and the numbers that are routed to it; lookups and
forgets keep it (`wf_lookup`, `wf_forget`). Then the table as a whole is a map from IDs to
records: `record?_setShard` turns the change of one record in one shard into the change of
one record of the table.
-/

namespace UserFs.Inode.Table

variable {κ : Type}

/-- The slot of the shard at a position. -/
def slotAt (table : Table κ) (index : Nat) : Slot := ⟨table.shards.size, index, table.recycle⟩

/-- The shard at a position. -/
def shardAt (table : Table κ) : Fin table.shards.size → Shard κ
  | ⟨index, _⟩ => table.shards[index]

/-- Whether a key is routed to the shard at a position. -/
structure Belongs (table : Table κ) (index : Nat) (key : κ) : Prop where
  ne_rootKey : key ≠ table.rootKey
  index_eq : (table.hash key).toNat % table.shards.size = index

@[simp] theorem size_setShard (table : Table κ) (index : Fin table.shards.size)
    (shard : Shard κ) : (table.setShard index shard).shards.size = table.shards.size :=
  Array.size_set index.isLt

@[simp] theorem slotAt_setShard (table : Table κ) (index : Fin table.shards.size)
    (shard : Shard κ) (other : Nat) :
    (table.setShard index shard).slotAt other = table.slotAt other := by
  rw [slotAt, size_setShard]
  rfl

theorem belongs_setShard (table : Table κ) (index : Fin table.shards.size) (shard : Shard κ)
    (other : Nat) : (table.setShard index shard).Belongs other = table.Belongs other := by
  funext key
  apply propext
  constructor <;> rintro ⟨ne, eq⟩
  · exact ⟨ne, by rwa [size_setShard] at eq⟩
  · exact ⟨ne, by rwa [size_setShard]⟩

theorem getElem?_setShard (table : Table κ) (index : Fin table.shards.size) (shard : Shard κ)
    (other : Nat) : (table.setShard index shard).shards[other]? =
      if index.val = other then some shard else table.shards[other]? :=
  Array.getElem?_set index.isLt

theorem setShard_self (table : Table κ) (index : Fin table.shards.size) :
    table.setShard index (table.shardAt index) = table := by
  simp only [setShard, shardAt, Array.set_getElem_self]

theorem getElem?_fin (table : Table κ) (index : Fin table.shards.size) :
    table.shards[index.val]? = some (table.shardAt index) :=
  Array.getElem?_eq_getElem index.isLt

theorem getElem_of_getElem? {table : Table κ} {index : Fin table.shards.size} {shard : Shard κ}
    (placed : table.shards[index.val]? = some shard) : table.shardAt index = shard :=
  Option.some.inj ((getElem?_fin table index).symm.trans placed)

theorem belongs_shardOfKey (table : Table κ) {key : κ} (notRoot : key ≠ table.rootKey) :
    table.Belongs (table.shardOfKey key) key :=
  ⟨notRoot, rfl⟩

/-! ## Which shard an ID is from -/

theorem shardOfId?_eq_some_iff {table : Table κ} {id : InodeId}
    {index : Fin table.shards.size} :
    table.shardOfId? id = some index ↔ (table.slotAt index).Owns id := by
  unfold shardOfId?
  split
  · next small =>
    refine ⟨nofun, fun owns => ?_⟩
    exact absurd owns.firstMinted_le (UInt64.not_le.mpr small)
  · next large =>
    rw [Option.some.injEq, Fin.ext_iff]
    exact ⟨fun eq => ⟨UInt64.not_lt.mp large, eq⟩, Slot.Owns.index_eq⟩

theorem shardOfId?_eq_none_iff {table : Table κ} {id : InodeId} :
    table.shardOfId? id = none ↔ id.raw < InodeId.firstMinted := by
  unfold shardOfId?
  split
  · next small => exact ⟨fun _ => small, fun _ => rfl⟩
  · next large => exact ⟨nofun, fun small => absurd small large⟩

/-- The record of an ID is found in the shard that owns the ID. -/
theorem record?_of_owns {table : Table κ} {index : Nat} {shard : Shard κ} {id : InodeId}
    (placed : table.shards[index]? = some shard) (owns : (table.slotAt index).Owns id) :
    table.record? id = shard.records.get? id := by
  obtain ⟨lt, rfl⟩ := Array.getElem?_eq_some_iff.mp placed
  have routed : table.shardOfId? id = some ⟨index, lt⟩ := shardOfId?_eq_some_iff.mpr owns
  rw [record?, routed]
  rfl

theorem record?_eq_none_of_small {table : Table κ} {id : InodeId}
    (small : id.raw < InodeId.firstMinted) : table.record? id = none := by
  rw [record?, shardOfId?_eq_none_iff.mpr small, Option.bind_none]

theorem record?_root (table : Table κ) : table.record? .root = none :=
  record?_eq_none_of_small (by decide)

/-- An ID with a record is from some shard. -/
theorem exists_owns_of_record? {table : Table κ} {id : InodeId} {record : Record κ}
    (live : table.record? id = some record) : ∃ index shard,
      table.shards[index]? = some shard ∧ (table.slotAt index).Owns id ∧
        shard.records.get? id = some record := by
  obtain ⟨index, routed, there⟩ := Option.bind_eq_some_iff.mp live
  exact ⟨index, _, getElem?_fin table index, shardOfId?_eq_some_iff.mp routed, there⟩

theorem ne_root_of_record? {table : Table κ} {id : InodeId} {record : Record κ}
    (live : table.record? id = some record) : id ≠ .root := by
  rintro rfl
  rw [record?_root] at live
  cases live

theorem size_fresh (rootKey : κ) (config : TableConfig) (hash : κ → UInt64) :
    (fresh rootKey config hash).shards.size = max config.shards 1 :=
  Array.size_replicate

theorem getElem_fresh (rootKey : κ) (config : TableConfig) (hash : κ → UInt64) {index : Nat}
    {shard : Shard κ} (placed : (fresh rootKey config hash).shards[index]? = some shard) :
    shard = .empty := by
  obtain ⟨_, rfl⟩ := Array.getElem?_eq_some_iff.mp placed
  exact Array.getElem_replicate _

theorem record?_fresh (rootKey : κ) (config : TableConfig) (hash : κ → UInt64)
    (id : InodeId) : (fresh rootKey config hash).record? id = none := by
  cases live : (fresh rootKey config hash).record? id with
  | none => rfl
  | some record =>
    obtain ⟨index, shard, placed, _, there⟩ := exists_owns_of_record? live
    rw [getElem_fresh rootKey config hash placed] at there
    cases there

/-- Where one shard changes the record of one of its IDs, so does the table. -/
theorem record?_setShard {table : Table κ} (index : Fin table.shards.size) {shard : Shard κ}
    {id : InodeId} {value : Option (Record κ)} (owns : (table.slotAt index).Owns id)
    (changed : ∀ other, shard.records.get? other =
      if other = id then value else (table.shardAt index).records.get? other) (other : InodeId) :
    (table.setShard index shard).record? other =
      if other = id then value else table.record? other := by
  cases routed : table.shardOfId? other with
  | none =>
    have small := shardOfId?_eq_none_iff.mp routed
    have different : other ≠ id := by
      rintro rfl
      exact UInt64.not_lt.mpr owns.firstMinted_le small
    rw [if_neg different, record?_eq_none_of_small small, record?_eq_none_of_small small]
  -- an ID of another shard is found where it was, as an ID is of one shard only
  | some origin =>
    have otherOwns := shardOfId?_eq_some_iff.mp routed
    rw [record?_of_owns (getElem?_fin table origin) otherOwns]
    have afterOwns := otherOwns
    rw [← slotAt_setShard table index shard] at afterOwns
    by_cases same : index = origin
    · subst same
      have placed := getElem?_setShard table index shard index
      rw [if_pos rfl] at placed
      rw [record?_of_owns placed afterOwns, changed]
    · have placed := getElem?_setShard table index shard origin
      rw [if_neg fun eq => same (Fin.ext eq), getElem?_fin] at placed
      have different : other ≠ id := by
        rintro rfl
        exact same (Fin.ext (owns.index_unique otherOwns))
      rw [record?_of_owns placed afterOwns, if_neg different]

/-! ## What can be observed -/

theorem resolve?_of_ne_root {table : Table κ} {id : InodeId} (notRoot : id ≠ .root) :
    table.resolve? id = (table.record? id).map (·.key) := by
  rw [resolve?, InodeId.isRoot, decide_eq_false notRoot, if_neg Bool.false_ne_true]

theorem generation?_of_ne_root {table : Table κ} {id : InodeId} (notRoot : id ≠ .root) :
    table.generation? id = (table.record? id).map (·.generation) := by
  rw [generation?, InodeId.isRoot, decide_eq_false notRoot, if_neg Bool.false_ne_true]

theorem isValid_of_ne_root {table : Table κ} {id : InodeId} (notRoot : id ≠ .root) :
    table.isValid id = (table.record? id).isSome := by
  rw [isValid, generation?_of_ne_root notRoot, Option.isSome_map]

theorem isValid_of_record? {table : Table κ} {id : InodeId} {record : Record κ}
    (live : table.record? id = some record) : table.isValid id = true := by
  rw [isValid_of_ne_root (ne_root_of_record? live), live, Option.isSome_some]

theorem resolve?_root (table : Table κ) : table.resolve? .root = some table.rootKey := rfl

theorem isValid_root (table : Table κ) : table.isValid .root = true := rfl

theorem exists_resolve?_of_isValid {table : Table κ} {id : InodeId}
    (valid : table.isValid id = true) : ∃ key, table.resolve? id = some key := by
  by_cases isRoot : id = .root
  · exact ⟨table.rootKey, by rw [isRoot, resolve?_root]⟩
  · rw [isValid_of_ne_root isRoot] at valid
    obtain ⟨record, live⟩ := Option.isSome_iff_exists.mp valid
    exact ⟨record.key, by rw [resolve?_of_ne_root isRoot, live, Option.map_some]⟩

theorem isValid_eq_isSome_resolve? (table : Table κ) (id : InodeId) :
    table.isValid id = (table.resolve? id).isSome := by
  by_cases isRoot : id = .root
  · rw [isRoot, isValid_root, resolve?_root, Option.isSome_some]
  · rw [isValid_of_ne_root isRoot, resolve?_of_ne_root isRoot, Option.isSome_map]

/-! ## The invariant -/

variable [DecidableEq κ]

/-- The representation invariant of a table: every shard is consistent. -/
def Wf (table : Table κ) : Prop :=
  ∀ (index : Nat) (shard : Shard κ), table.shards[index]? = some shard →
    shard.Wf (table.slotAt index) (table.Belongs index)

theorem wf_fresh (rootKey : κ) (config : TableConfig) (hash : κ → UInt64) :
    (fresh rootKey config hash).Wf := by
  intro index shard placed
  rw [getElem_fresh rootKey config hash placed]
  exact Shard.wf_empty _ _

theorem Wf.setShard {table : Table κ} (wf : table.Wf) (index : Fin table.shards.size)
    {shard : Shard κ} (shardWf : shard.Wf (table.slotAt index) (table.Belongs index)) :
    (table.setShard index shard).Wf := by
  intro other otherShard placed
  rw [slotAt_setShard, belongs_setShard]
  rw [getElem?_setShard] at placed
  split at placed
  · next same =>
    cases placed
    exact same ▸ shardWf
  · exact wf other otherShard placed

theorem Wf.at {table : Table κ} (wf : table.Wf) (index : Fin table.shards.size) :
    (table.shardAt index).Wf (table.slotAt index) (table.Belongs index) :=
  wf index _ (getElem?_fin table index)

/-- A record in a shard is the record that the table has of the ID. -/
theorem Wf.record?_of_get? {table : Table κ} (wf : table.Wf) {index : Nat} {shard : Shard κ}
    {id : InodeId} {record : Record κ} (placed : table.shards[index]? = some shard)
    (live : shard.records.get? id = some record) : table.record? id = some record := by
  have issued := (wf index shard placed).numbered.issued_live id (.of_get? live)
  rw [record?_of_owns placed issued.owns, live]

/-- The live ID of a key is in the shard of the key. -/
theorem Wf.get?_of_record? {table : Table κ} (wf : table.Wf) {id : InodeId} {record : Record κ}
    {key : κ} (live : table.record? id = some record) (same : record.key = key) :
    key ≠ table.rootKey ∧ (table.shardAt (table.shardOfKey key)).records.get? id = some record := by
  subst same
  obtain ⟨index, shard, placed, _, there⟩ := exists_owns_of_record? live
  have belongs := (wf index shard placed).linked.belongs_key id record there
  have routed : (table.shardOfKey record.key).val = index := belongs.index_eq
  rw [← routed] at placed
  exact ⟨belongs.ne_rootKey, (getElem_of_getElem? placed).symm ▸ there⟩

/-- No two IDs are live for one key. -/
theorem Wf.id_unique {table : Table κ} (wf : table.Wf) {first second : InodeId}
    {firstRecord secondRecord : Record κ} (firstLive : table.record? first = some firstRecord)
    (secondLive : table.record? second = some secondRecord)
    (same : firstRecord.key = secondRecord.key) : first = second := by
  have firstThere := (wf.get?_of_record? firstLive same).2
  have secondThere := (wf.get?_of_record? secondLive rfl).2
  have linked := (wf.at (table.shardOfKey secondRecord.key)).linked
  have firstKnown := (linked.ids_iff secondRecord.key first).mpr ⟨_, firstThere, same⟩
  have secondKnown := (linked.ids_iff secondRecord.key second).mpr ⟨_, secondThere, rfl⟩
  exact Option.some.inj (firstKnown.symm.trans secondKnown)

/-! ## Lookups and forgets -/

theorem lookup_rootKey (table : Table κ) : table.lookup table.rootKey = (some .root, table) :=
  if_pos rfl

theorem lookup_of_ne_rootKey (table : Table κ) {key : κ} (notRoot : key ≠ table.rootKey) :
    table.lookup key =
      (((table.shardAt (table.shardOfKey key)).lookup (table.slotAt (table.shardOfKey key)) key).1,
        table.setShard (table.shardOfKey key)
          ((table.shardAt (table.shardOfKey key)).lookup
            (table.slotAt (table.shardOfKey key)) key).2) :=
  if_neg notRoot

theorem forget_root (table : Table κ) (count : UInt64) :
    table.forget .root count = (.pinned, table) := rfl

theorem forget_of_small (table : Table κ) {id : InodeId} (notRoot : id ≠ .root)
    (small : id.raw < InodeId.firstMinted) (count : UInt64) :
    table.forget id count = (.unknown, table) := by
  rw [forget, InodeId.isRoot, decide_eq_false notRoot, if_neg Bool.false_ne_true,
    shardOfId?_eq_none_iff.mpr small]

theorem forget_of_owns (table : Table κ) {id : InodeId} (index : Fin table.shards.size)
    (owns : (table.slotAt index).Owns id) (count : UInt64) :
    table.forget id count =
      (((table.shardAt index).forget (table.slotAt index) id count).1,
        table.setShard index ((table.shardAt index).forget (table.slotAt index) id count).2) := by
  rw [forget, InodeId.isRoot, decide_eq_false owns.ne_root, if_neg Bool.false_ne_true,
    shardOfId?_eq_some_iff.mpr owns]
  rfl

theorem Wf.looked {table : Table κ} (wf : table.Wf) (key : κ) :
    Shard.Looked (table.slotAt (table.shardOfKey key)) (table.shardAt (table.shardOfKey key)) key
      ((table.shardAt (table.shardOfKey key)).lookup (table.slotAt (table.shardOfKey key)) key).1
      ((table.shardAt (table.shardOfKey key)).lookup (table.slotAt (table.shardOfKey key)) key).2 :=
  Shard.looked_lookup _ (wf.at _).linked key

theorem Wf.lookup_of_record? {table : Table κ} (wf : table.Wf) {id : InodeId}
    {record : Record κ} (live : table.record? id = some record) :
    (table.lookup record.key).1 = some ⟨id, record.generation⟩ := by
  obtain ⟨notRoot, there⟩ := wf.get?_of_record? live rfl
  rw [lookup_of_ne_rootKey table notRoot, Shard.lookup_of_live _ (wf.at _).linked there]

theorem wf_lookup {table : Table κ} (wf : table.Wf) (key : κ) : (table.lookup key).2.Wf := by
  by_cases isRoot : key = table.rootKey
  · rw [isRoot, lookup_rootKey]
    exact wf
  · rw [lookup_of_ne_rootKey table isRoot]
    exact wf.setShard _ ((wf.looked key).wf (table.shardOfKey key).isLt (wf.at _)
      (table.belongs_shardOfKey isRoot))

theorem wf_forget {table : Table κ} (wf : table.Wf) (id : InodeId) (count : UInt64) :
    (table.forget id count).2.Wf := by
  by_cases isRoot : id = .root
  · rw [isRoot, forget_root]
    exact wf
  · cases routed : table.shardOfId? id with
    | none =>
      rw [forget_of_small table isRoot (shardOfId?_eq_none_iff.mp routed)]
      exact wf
    | some index =>
      rw [forget_of_owns table index (shardOfId?_eq_some_iff.mp routed)]
      exact wf.setShard index ((Shard.forgot_forget _ _ id count).wf (wf.at index))

end UserFs.Inode.Table
