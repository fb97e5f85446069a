import UserFs.Proofs.Inode.Run

/-!
# How long the inode numbers last

A lookup takes at most one new number, from one of the shards, and a forget takes none. So in
a table of `n` shards the numbers last for as many lookups as there are 64-bit numbers for
`n` of them each (`AtMost.isSome_lookup`), whatever is recycled in between.

Likewise a lookup is counted once, and a forget only takes away. So no ID has more lookups counted
than there were (`CountsAtMost.step`), and a count overflows only after `2 ^ 64` of them.
-/

namespace UserFs.Inode

variable {κ : Type}

namespace Shard

variable [DecidableEq κ]

theorem nextSequence_lookup_le (slot : Slot) (shard : Shard κ) (key : κ) :
    (shard.lookup slot key).2.nextSequence ≤ shard.nextSequence + 1 := by
  unfold lookup
  split
  · exact Nat.le_succ _
  · unfold mint
    split
    · exact Nat.le_succ _
    · split
      · exact Nat.le_succ _
      · exact Nat.le_refl _

theorem nextSequence_forget (slot : Slot) (shard : Shard κ) (id : InodeId) (given : UInt64) :
    (shard.forget slot id given).2.nextSequence = shard.nextSequence := by
  unfold forget
  split
  · rfl
  · split <;> rfl

end Shard

namespace Table

variable {table : Table κ} {count : Nat}

/-- No shard has issued more numbers than so many. -/
def AtMost (table : Table κ) (count : Nat) : Prop :=
  ∀ (index : Nat) (shard : Shard κ), table.shards[index]? = some shard →
    shard.nextSequence ≤ count

theorem atMost_fresh (rootKey : κ) (config : TableConfig) (hash : κ → UInt64) :
    (fresh rootKey config hash).AtMost 0 := by
  intro index shard placed
  rw [getElem_fresh rootKey config hash placed]
  exact Nat.le_refl 0

theorem AtMost.mono (atMost : table.AtMost count) {more : Nat} (le : count ≤ more) :
    table.AtMost more :=
  fun index shard placed => Nat.le_trans (atMost index shard placed) le

theorem AtMost.setShard (atMost : table.AtMost count) (index : Fin table.shards.size)
    {shard : Shard κ} (le : shard.nextSequence ≤ count) :
    (table.setShard index shard).AtMost count := by
  intro other otherShard placed
  rw [getElem?_setShard] at placed
  split at placed
  · cases placed
    exact le
  · exact atMost other otherShard placed

variable [DecidableEq κ]

theorem AtMost.lookup (atMost : table.AtMost count) (key : κ) :
    (table.lookup key).2.AtMost (count + 1) := by
  by_cases isRoot : key = table.rootKey
  · rw [isRoot, lookup_rootKey]
    exact atMost.mono (Nat.le_succ count)
  · rw [lookup_of_ne_rootKey table isRoot]
    have before := atMost _ _ (getElem?_fin table (table.shardOfKey key))
    refine (atMost.mono (Nat.le_succ count)).setShard _ ?_
    exact Nat.le_trans (Shard.nextSequence_lookup_le _ _ key) (Nat.succ_le_succ before)

theorem AtMost.forget (atMost : table.AtMost count) (id : InodeId) (given : UInt64) :
    (table.forget id given).2.AtMost count := by
  by_cases isRoot : id = .root
  · rw [isRoot, forget_root]
    exact atMost
  · cases routed : table.shardOfId? id with
    | none =>
      rw [forget_of_small table isRoot (shardOfId?_eq_none_iff.mp routed)]
      exact atMost
    | some index =>
      rw [forget_of_owns table index (shardOfId?_eq_some_iff.mp routed)]
      refine atMost.setShard index ?_
      rw [Shard.nextSequence_forget]
      exact atMost _ _ (getElem?_fin table index)

theorem AtMost.call (atMost : table.AtMost count) (call : Call κ) :
    (table.call call).2.AtMost (count + if call.isLookup then 1 else 0) := by
  cases call with
  | lookup key => exact atMost.lookup key
  | forget id given => exact atMost.forget id given

/-- As long as the numbers that every shard may have issued are 64-bit numbers, there is one
for the next lookup. -/
theorem AtMost.isSome_lookup (atMost : table.AtMost count)
    (room : (count + 1) * table.shards.size + 1 < UInt64.size) (key : κ) :
    (table.lookup key).1.isSome := by
  by_cases isRoot : key = table.rootKey
  · rw [isRoot, lookup_rootKey]
    rfl
  · rw [lookup_of_ne_rootKey table isRoot]
    have issued := atMost _ _ (getElem?_fin table (table.shardOfKey key))
    generalize table.shardOfKey key = index at issued ⊢
    unfold Shard.lookup
    split
    · rfl
    · unfold Shard.mint
      split
      · rfl
      · have scaled := Nat.mul_le_mul_right table.shards.size issued
        rw [Nat.succ_mul] at room
        have inRange := index.isLt
        rw [Slot.number?_eq, if_pos]
        · rfl
        · show _ * table.shards.size + 2 + index < UInt64.size
          omega

end Table

/-! ## Counts -/

namespace Table

/-- No ID has more lookups counted than so many. -/
def CountsAtMost (table : Table κ) (count : Nat) : Prop :=
  ∀ id record, table.record? id = some record → record.lookups.toNat ≤ count

theorem countsAtMost_fresh (rootKey : κ) (config : TableConfig) (hash : κ → UInt64) :
    (fresh rootKey config hash).CountsAtMost 0 := by
  intro id record live
  rw [record?_fresh] at live
  cases live

theorem CountsAtMost.step {table after : Table κ} {count : Nat} {call : Call κ} {event : Event κ}
    (counts : table.CountsAtMost count) (step : Step table call event after) :
    after.CountsAtMost (count + if event.isLookup then 1 else 0) := by
  intro id record live
  cases step.touched (ne_root_of_record? live) with
  | idle _ _ same =>
    rw [same] at live
    exact Nat.le_add_right_of_le (counts id record live)
  | @counted before told there still =>
    have low := counts id before there
    rw [still] at live
    cases live
    subst told
    -- where the count overflows it becomes zero
    have up : (before.lookups + 1).toNat ≤ before.lookups.toNat + 1 := by
      rw [UInt64.toNat_add]
      exact Nat.mod_le _ _
    exact Nat.le_trans up (Nat.succ_le_succ low)
  | minted _ told _ there =>
    rw [there] at live
    cases live
    subst told
    exact Nat.le_add_left 1 count
  | @remaining given _ before told there fewer still =>
    have low := counts id before there
    have rest := UInt64.toNat_sub_of_le _ _ (UInt64.le_of_lt fewer)
    rw [still] at live
    cases live
    show (before.lookups - given).toNat ≤ _
    omega
  | retired _ _ _ dead =>
    rw [dead] at live
    cases live

end Table

end UserFs.Inode
