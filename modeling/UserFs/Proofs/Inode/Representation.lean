import Mathlib.Data.Finset.Card
import Mathlib.Data.List.Nodup
import UserFs.Proofs.Inode.Ledger

/-!
# The representation invariant of the table

What the fields of the shards must satisfy together, in every state that lookups and forgets
can reach (`representation_invariant`): in each shard the two maps are inverse, the counts are
positive, and the numbers are shared out among live and waiting IDs (`Shard.Sound`); over the
whole table distinct valid IDs stand for distinct keys, and as many IDs besides the root are
valid as are counted.
-/

namespace UserFs.Inode

variable {κ : Type}

namespace Table

/-! ## The valid IDs -/

/-- The live IDs besides the root, shard by shard. -/
def liveIds (table : Table κ) : List InodeId :=
  table.shards.toList.flatMap fun shard => shard.records.keys

theorem length_liveIds (table : Table κ) : table.liveIds.length = table.liveCount := by
  have sizes : (fun shard : Shard κ => shard.records.keys.length) = Shard.liveCount :=
    funext fun shard => List.length_map _
  rw [liveIds, List.length_flatMap, sizes]
  rfl

variable [DecidableEq κ]

theorem Wf.mem_liveIds_iff {table : Table κ} (wf : table.Wf) {id : InodeId} :
    id ∈ table.liveIds ↔ (table.record? id).isSome := by
  rw [liveIds, List.mem_flatMap, Option.isSome_iff_exists]
  constructor
  · rintro ⟨shard, member, there⟩
    obtain ⟨index, placed⟩ := List.mem_iff_getElem?.mp member
    obtain ⟨record, live⟩ := Option.isSome_iff_exists.mp (KeyMap.mem_keys_iff.mp there)
    rw [Array.getElem?_toList] at placed
    exact ⟨record, wf.record?_of_get? placed live⟩
  · rintro ⟨record, live⟩
    obtain ⟨index, shard, placed, _, there⟩ := exists_owns_of_record? live
    refine ⟨shard, Array.mem_toList_iff.mpr (Array.mem_of_getElem? placed), ?_⟩
    exact KeyMap.mem_keys_iff.mpr (by rw [there]; rfl)

/-- No ID is live in two shards, or twice in one. -/
theorem Wf.nodup_liveIds {table : Table κ} (wf : table.Wf) : table.liveIds.Nodup := by
  have owned : ∀ (index : Nat) (shard : Shard κ), table.shards.toList[index]? = some shard →
      ∀ id ∈ shard.records.keys, (table.slotAt index).Owns id := by
    intro index shard placed id member
    rw [Array.getElem?_toList] at placed
    exact ((wf index shard placed).numbered.issued_live id (KeyMap.mem_keys_iff.mp member)).owns
  refine List.nodup_flatMap.mpr ⟨fun shard _ => shard.records.nodup_keys, ?_⟩
  rw [List.pairwise_iff_getElem]
  intro first second firstLt secondLt lt id inFirst inSecond
  have firstOwns := owned first _ (List.getElem?_eq_getElem firstLt) id inFirst
  have secondOwns := owned second _ (List.getElem?_eq_getElem secondLt) id inSecond
  exact Nat.ne_of_lt lt (firstOwns.index_unique secondOwns)

/-- No two valid IDs stand for one key. -/
theorem Wf.resolve?_injective {table : Table κ} (wf : table.Wf) {first second : InodeId}
    {key : κ} (firstKey : table.resolve? first = some key)
    (secondKey : table.resolve? second = some key) : first = second := by
  -- a key that is live in a shard is not the root's
  have ne_rootKey : ∀ id, id ≠ .root → table.resolve? id ≠ some table.rootKey := by
    intro id notRoot resolved
    rw [resolve?_of_ne_root notRoot] at resolved
    obtain ⟨record, live, same⟩ := Option.map_eq_some_iff.mp resolved
    exact (wf.get?_of_record? live same).1 rfl
  by_cases firstRoot : first = .root <;> by_cases secondRoot : second = .root
  · rw [firstRoot, secondRoot]
  · rw [firstRoot, resolve?_root] at firstKey
    exact absurd (secondKey.trans firstKey.symm) (ne_rootKey second secondRoot)
  · rw [secondRoot, resolve?_root] at secondKey
    exact absurd (firstKey.trans secondKey.symm) (ne_rootKey first firstRoot)
  · rw [resolve?_of_ne_root firstRoot] at firstKey
    rw [resolve?_of_ne_root secondRoot] at secondKey
    obtain ⟨firstRecord, firstLive, rfl⟩ := Option.map_eq_some_iff.mp firstKey
    obtain ⟨secondRecord, secondLive, same⟩ := Option.map_eq_some_iff.mp secondKey
    exact wf.id_unique firstLive secondLive same.symm

/-- The valid IDs besides the root are as many as are counted. -/
theorem Wf.exists_validIds {table : Table κ} (wf : table.Wf) :
    ∃ ids : Finset InodeId, (∀ id, id ∈ ids ↔ table.isValid id = true ∧ id ≠ .root) ∧
      ids.card = table.liveCount := by
  refine ⟨table.liveIds.toFinset, fun id => ?_, ?_⟩
  · rw [List.mem_toFinset, wf.mem_liveIds_iff]
    constructor
    · intro live
      obtain ⟨record, found⟩ := Option.isSome_iff_exists.mp live
      exact ⟨isValid_of_record? found, ne_root_of_record? found⟩
    · rintro ⟨valid, notRoot⟩
      rwa [isValid_of_ne_root notRoot] at valid
  · rw [List.toFinset_card_of_nodup wf.nodup_liveIds, table.length_liveIds]

end Table

/-! ## The invariant of each shard -/

variable [DecidableEq κ]

/-- What the fields of one shard of a table satisfy together. -/
structure Shard.Sound (table : Table κ) (index : Fin table.shards.size) (shard : Shard κ) :
    Prop where
  /-- The two maps are inverse to each other. -/
  ids_iff : ∀ key id, shard.ids.get? key = some id ↔
    ∃ record, shard.records.get? id = some record ∧ record.key = key
  /-- A key that has an ID is live: no lookup of it mints. -/
  live?_isSome : ∀ key id, shard.ids.get? key = some id → (shard.live? key).isSome
  /-- The kernel holds a lookup on every live ID. -/
  one_le_lookups : ∀ id record, shard.records.get? id = some record → 1 ≤ record.lookups
  /-- Every key is hashed to this shard, and none is the root's. -/
  routed : ∀ id record, shard.records.get? id = some record →
    table.shardOfKey record.key = index ∧ record.key ≠ table.rootKey
  /-- Every live or waiting ID has a number of this shard, with a sequence number that is used. -/
  numbered : ∀ id, (shard.records.get? id).isSome ∨ id ∈ shard.free.map (·.id) →
    InodeId.firstMinted ≤ id.raw ∧
      (id.raw.toNat - InodeId.firstMinted.toNat) % table.shards.size = index ∧
      (id.raw.toNat - InodeId.firstMinted.toNat) / table.shards.size < shard.nextSequence
  /-- No ID waits twice. -/
  free_nodup : (shard.free.map (·.id)).Nodup
  /-- No ID is live and waits. -/
  not_live_free : ∀ id, ¬ ((shard.records.get? id).isSome ∧ id ∈ shard.free.map (·.id))
  /-- If IDs are issued again, each used sequence number has an ID that is live or waits, and
  not both. -/
  live_or_free : table.recycle = true → ∀ sequence < shard.nextSequence, ∃ id,
    (table.slot index).number? sequence = some id ∧
      Xor ((shard.records.get? id).isSome = true) (id ∈ shard.free.map (·.id))
  /-- If not, none waits. -/
  free_nil : table.recycle = false → shard.free = []

theorem Table.Wf.sound {table : Table κ} (wf : table.Wf)
    (counted : ∀ id record, table.record? id = some record → 1 ≤ record.lookups)
    (index : Fin table.shards.size) : (table.shardAt index).Sound table index := by
  obtain ⟨linked, numbered⟩ := wf.at index
  have apart : ∀ id, ¬ (((table.shardAt index).records.get? id).isSome ∧
      id ∈ (table.shardAt index).free.map (·.id)) := by
    rintro id ⟨live, waits⟩
    obtain ⟨waiting, member, rfl⟩ := List.mem_map.mp waits
    exact numbered.not_live_free waiting member live
  constructor
  case ids_iff => exact linked.ids_iff
  case live?_isSome =>
    intro key id known
    rw [Option.isSome_iff_ne_none]
    intro dead
    rw [(Shard.live?_eq_none_iff linked).mp dead] at known
    cases known
  case one_le_lookups =>
    intro id record live
    exact counted id record (wf.record?_of_get? (table.getElem?_fin index) live)
  case routed =>
    intro id record live
    have belongs := linked.belongs_key id record live
    exact ⟨Fin.ext belongs.index_eq, belongs.ne_rootKey⟩
  case numbered =>
    rintro id (live | waits)
    · obtain ⟨owns, lt⟩ := numbered.issued_live id live
      exact ⟨owns.firstMinted_le, owns.index_eq, lt⟩
    · obtain ⟨waiting, member, rfl⟩ := List.mem_map.mp waits
      obtain ⟨owns, lt⟩ := numbered.issued_free waiting member
      exact ⟨owns.firstMinted_le, owns.index_eq, lt⟩
  case free_nodup => exact numbered.free_nodup
  case not_live_free => exact apart
  case live_or_free =>
    intro recycles sequence lt
    obtain ⟨id, number⟩ := Option.isSome_iff_exists.mp (numbered.number?_isSome sequence lt)
    have inRange : (table.slotAt index).index < table.shards.size := index.isLt
    obtain ⟨owns, rfl⟩ := (Slot.number?_eq_some_iff inRange).mp number
    refine ⟨id, number, ?_⟩
    rcases numbered.live_or_free recycles id ⟨owns, lt⟩ with live | waits
    · exact .inl ⟨live, fun waits => apart id ⟨live, waits⟩⟩
    · exact .inr ⟨waits, fun live => apart id ⟨live, waits⟩⟩
  case free_nil => exact numbered.free_nil

/-! ## The table as a whole -/

/-- **The representation invariant.** In every state that is reached by fewer than `2 ^ 64`
lookups, and any forgets, each shard is sound; distinct valid IDs, the root among them, stand
for distinct keys; no ID has the number 0; and `liveCount` is the number of valid IDs besides
the root. -/
theorem representation_invariant (rootKey : κ) (config : TableConfig) (hash : κ → UInt64)
    (calls : List (Call κ)) (few : calls.countP Call.isLookup < UInt64.size) :
    let table := (Table.fresh rootKey config hash).run calls
    (table.rootKey = rootKey ∧ table.hash = hash ∧ table.recycle = config.recycle ∧
      table.shards.size = max config.shards 1) ∧
    (∀ index : Fin table.shards.size, (table.shardAt index).Sound table index) ∧
    (∀ first second, table.isValid first = true → table.isValid second = true →
      first ≠ second → table.resolve? first ≠ table.resolve? second) ∧
    table.isValid ⟨0⟩ = false ∧
    ∃ ids : Finset InodeId, (∀ id, id ∈ ids ↔ table.isValid id = true ∧ id ≠ .root) ∧
      ids.card = table.liveCount := by
  intro table
  have wf : table.Wf := (Table.wf_fresh rootKey config hash).run calls
  obtain ⟨sameRoot, sameRecycle, sameHash, sameSize⟩ :=
    (Table.fresh rootKey config hash).sameSetup_run calls
  refine ⟨⟨sameRoot, sameHash, sameRecycle, ?_⟩, wf.sound ?_, ?_, ?_, wf.exists_validIds⟩
  · exact sameSize.trans (Table.size_fresh rootKey config hash)
  · intro id record live
    have kept := kept_run rootKey config hash calls few (Table.ne_root_of_record? live)
    have balanced := kept.live record live
    have total := balanced.count_eq
    have more := balanced.held.lt
    rw [UInt64.le_iff_toNat_le]
    show 1 ≤ record.lookups.toNat
    omega
  · intro first second firstValid secondValid different same
    obtain ⟨key, firstKey⟩ := Table.exists_resolve?_of_isValid firstValid
    exact different (wf.resolve?_injective firstKey (same ▸ firstKey))
  · rw [Table.isValid_of_ne_root (by decide), Table.record?_eq_none_of_small (by decide)]
    rfl

theorem representation_invariant_turns :
    let table := (Table.fresh 0 ⟨2, true⟩ UInt64.ofNat).run turns
    turns.countP Call.isLookup < UInt64.size ∧
    (∀ index : Fin table.shards.size, (table.shardAt index).Sound table index) ∧
    ∃ ids : Finset InodeId, (∀ id, id ∈ ids ↔ table.isValid id = true ∧ id ≠ .root) ∧
      ids.card = 2 := by
  intro table
  have few : turns.countP Call.isLookup < UInt64.size := by decide
  obtain ⟨_, sound, _, _, ids, members, card⟩ :=
    representation_invariant 0 ⟨2, true⟩ UInt64.ofNat turns few
  exact ⟨few, sound, ids, members, card.trans (by decide)⟩

end UserFs.Inode
