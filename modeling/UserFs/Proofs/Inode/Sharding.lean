import UserFs.Proofs.Inode.Renumbering

/-!
# A table with many shards is many tables with one

A table with several shards is as many tables with one shard each, side by side
(`shards_independent`): the operations about a shard, taken out of any run and performed on a
fresh table with one shard, are answered in the same way, but for the names of the IDs; and as
many IDs are live in the table as in all the small tables together. That the shards do not
meddle with each other is `Table.transcript_routed`, and that the names are all that differs is
`Shard.Renumbered.performAll`; here the two are put together.
-/

namespace UserFs.Inode

variable {κ : Type}

namespace Table

theorem getElem?_fresh {rootKey : κ} {config : TableConfig} {hash : κ → UInt64} {index : Nat}
    (lt : index < (fresh rootKey config hash).shards.size) :
    (fresh rootKey config hash).shards[index]? = some .empty := by
  cases placed : (fresh rootKey config hash).shards[index]? with
  | none => exact absurd (Array.getElem?_eq_none_iff.mp placed) (Nat.not_le.mpr lt)
  | some shard => rw [getElem_fresh rootKey config hash placed]

theorem slotAt_fresh_alone (rootKey : κ) (config : TableConfig) (hash aloneHash : κ → UInt64)
    (index : Nat) : (fresh rootKey ⟨1, config.recycle⟩ aloneHash).slotAt 0 =
      ((fresh rootKey config hash).slotAt index).alone := by
  rw [slotAt, size_fresh]
  rfl

/-- The live IDs are counted shard by shard. -/
theorem liveCount_eq_of_shards {table : Table κ} {size : Nat} (parts : Nat → Shard κ)
    (sameSize : table.shards.size = size)
    (placed : ∀ index < size, table.shards[index]? = some (parts index)) :
    table.liveCount =
      ((List.range size).map fun index => (parts index).liveCount).foldr (· + ·) 0 := by
  have listed : table.shards.toList = (List.range size).map parts := by
    refine List.ext_getElem? fun index => ?_
    rw [Array.getElem?_toList, List.getElem?_map]
    by_cases lt : index < size
    · rw [placed index lt, List.getElem?_range lt, Option.map_some]
    · rw [List.getElem?_eq_none (by simpa using lt), Option.map_none]
      exact Array.getElem?_eq_none (by omega)
  rw [liveCount, listed, List.map_map]
  rfl

variable [DecidableEq κ]

theorem sameSetup_performAll (table : Table κ) (operations : List (Operation κ)) :
    table.SameSetup (performAll perform table operations) := by
  induction operations generalizing table with
  | nil => exact .refl table
  | cons operation rest ih => exact (table.sameSetup_perform operation).trans (ih _)

/-- Operations that are all about one shard are performed on that shard. -/
theorem transcript_of_routed {table : Table κ} {index : Nat} {shard : Shard κ}
    (placed : table.shards[index]? = some shard) {operations : List (Operation κ)}
    (routed : ∀ operation ∈ operations, table.route? operation = some index) :
    transcript perform table operations =
        transcript (Shard.perform (table.slotAt index)) shard operations ∧
      (performAll perform table operations).shards[index]? =
        some (performAll (Shard.perform (table.slotAt index)) shard operations) := by
  have all : table.share index operations = operations := by
    refine List.filter_eq_self.mpr fun operation member => ?_
    exact decide_eq_true (routed operation member)
  have allOf : table.shareOf index (transcript perform table operations) =
      transcript perform table operations := by
    refine List.filter_eq_self.mpr fun exchange member => ?_
    have asked := List.mem_map_of_mem (f := Prod.fst) member
    rw [map_fst_transcript] at asked
    exact decide_eq_true (routed exchange.1 asked)
  have shown := transcript_routed placed operations
  rwa [all, allOf] at shown

/-- The operations about a shard concern it. -/
theorem concerns_of_mem_share {table : Table κ} {index : Nat} (lt : index < table.shards.size)
    (operations : List (Operation κ)) :
    ∀ operation ∈ table.share index operations,
      operation.Concerns (table.slotAt index) (table.Belongs index) := by
  intro operation member
  have routed := of_decide_eq_true (List.mem_filter.mp member).2
  exact (route?_eq_some_iff ⟨index, lt⟩).mp routed

/-- In a table with one shard, all that was about one shard is about that one. -/
theorem route?_renumber {rootKey : κ} {config : TableConfig} {hash aloneHash : κ → UInt64}
    {index : Nat} {operation : Operation κ}
    (concerns : operation.Concerns ((fresh rootKey config hash).slotAt index)
      ((fresh rootKey config hash).Belongs index)) :
    (fresh rootKey ⟨1, config.recycle⟩ aloneHash).route?
      (operation.renumber ((fresh rootKey config hash).slotAt index)) = some 0 := by
  have one := size_fresh rootKey ⟨1, config.recycle⟩ aloneHash
  refine (route?_eq_some_iff ⟨0, by rw [one]; exact Nat.one_pos⟩).mpr ?_
  rw [slotAt_fresh_alone rootKey config hash aloneHash index]
  cases operation with
  | lookup key => exact ⟨concerns.ne_rootKey, Nat.mod_one _⟩
  | forget id | resolve id | generation id | lookupCount id => exact Slot.owns_renumber _ id

/-- A table with one shard answers the operations about a shard as that one does, and is left
with as many live IDs. -/
theorem transcript_alone {rootKey : κ} {config : TableConfig} {hash : κ → UInt64} {index : Nat}
    (lt : index < (fresh rootKey config hash).shards.size) {operations : List (Operation κ)}
    (concern : ∀ operation ∈ operations, operation.Concerns
      ((fresh rootKey config hash).slotAt index) ((fresh rootKey config hash).Belongs index))
    (given : ∀ exchange ∈ transcript (Shard.perform ((fresh rootKey config hash).slotAt index))
      .empty operations, exchange.2 ≠ .found none) (aloneHash : κ → UInt64) :
    let slot := (fresh rootKey config hash).slotAt index
    let alone := fresh rootKey ⟨1, config.recycle⟩ aloneHash
    let renamed := operations.map (Operation.renumber slot)
    transcript perform alone renamed =
        (transcript (Shard.perform slot) .empty operations).map
          (Prod.map (Operation.renumber slot) (Answer.renumber slot)) ∧
      (performAll perform alone renamed).liveCount =
        (performAll (Shard.perform slot) .empty operations).liveCount := by
  intro slot alone renamed
  have one : alone.shards.size = 1 := size_fresh rootKey ⟨1, config.recycle⟩ aloneHash
  have only : alone.slotAt 0 = slot.alone := slotAt_fresh_alone ..
  have routed : ∀ operation ∈ renamed, alone.route? operation = some 0 := by
    intro operation member
    obtain ⟨asked, about, rfl⟩ := List.mem_map.mp member
    exact route?_renumber (concern asked about)
  obtain ⟨shown, left⟩ := transcript_of_routed
    (getElem?_fresh (by rw [one]; exact Nat.one_pos)) routed
  obtain ⟨same, kept⟩ := (Shard.renumbered_empty slot).performAll
    (Shard.wf_empty slot ((fresh rootKey config hash).Belongs index)) lt concern given
  rw [only] at shown left
  refine ⟨shown.trans same, ?_⟩
  have counted := liveCount_eq_of_shards
    (fun _ => performAll (Shard.perform slot.alone) .empty renamed)
    ((alone.sameSetup_performAll renamed).size_eq.trans one)
    fun other isFirst => by rwa [Nat.lt_one_iff.mp isFirst]
  rw [counted]
  exact kept.liveCount

end Table

variable [DecidableEq κ]

/-- **The shards are independent tables.** Take any run of operations on a fresh table in which
the numbers are not used up, and of it the operations about one shard, with the ID that has the
sequence number `j` in the shard renamed to `2 + j`. A fresh table with one shard, whatever its
hash, answers them in the same way, with the renamed IDs; and as many IDs are live as in all
these tables together. What else is asked of the table makes no difference to the answers that
are about the shard. -/
theorem shards_independent (rootKey : κ) (config : TableConfig) (hash : κ → UInt64)
    (aloneHash : Nat → κ → UInt64) (operations : List (Operation κ))
    (given : ∀ exchange ∈ transcript Table.perform (Table.fresh rootKey config hash) operations,
      exchange.2 ≠ .found none) :
    let table := Table.fresh rootKey config hash
    let slot := table.slotAt
    let alone := fun index => Table.fresh rootKey ⟨1, config.recycle⟩ (aloneHash index)
    let operationsOf := fun index =>
      (table.share index operations).map (Operation.renumber (slot index))
    table.shards.size = max config.shards 1 ∧
    (∀ index < table.shards.size, ∀ (sequence : Nat) (id : InodeId),
      id.raw.toNat = 2 + index + table.shards.size * sequence →
      ((slot index).renumber id).raw.toNat = 2 + sequence) ∧
    (∀ index < table.shards.size,
      transcript Table.perform (alone index) (operationsOf index) =
        (table.shareOf index (transcript Table.perform table operations)).map
          (Prod.map (Operation.renumber (slot index)) (Answer.renumber (slot index)))) ∧
    (performAll Table.perform table operations).liveCount =
      ((List.range table.shards.size).map fun index =>
        (performAll Table.perform (alone index) (operationsOf index)).liveCount).foldr (· + ·) 0 ∧
    ∀ index < table.shards.size, ∀ others : List (Operation κ),
      table.share index others = table.share index operations →
      table.shareOf index (transcript Table.perform table others) =
        table.shareOf index (transcript Table.perform table operations) := by
  intro table slot alone operationsOf
  -- what is shown of the operations about a shard, and the shard that they leave
  have shown : ∀ index < table.shards.size, ∀ others,
      table.shareOf index (transcript Table.perform table others) =
          transcript (Shard.perform (slot index)) .empty (table.share index others) ∧
        (performAll Table.perform table others).shards[index]? =
          some (performAll (Shard.perform (slot index)) .empty (table.share index others)) :=
    fun index lt others => Table.transcript_routed (Table.getElem?_fresh lt) others
  have givenOf : ∀ index < table.shards.size,
      ∀ exchange ∈ transcript (Shard.perform (slot index)) .empty (table.share index operations),
        exchange.2 ≠ .found none := by
    intro index lt exchange member
    rw [← (shown index lt operations).1] at member
    exact given exchange (List.mem_of_mem_filter member)
  have same := fun index (lt : index < table.shards.size) =>
    Table.transcript_alone lt (Table.concerns_of_mem_share lt operations) (givenOf index lt)
      (aloneHash index)
  refine ⟨Table.size_fresh rootKey config hash, ?_, ?_, ?_, ?_⟩
  · intro index lt sequence id number
    exact Slot.toNat_renumber_of_raw_eq lt number
  · intro index lt
    rw [(shown index lt operations).1]
    exact (same index lt).1
  · rw [Table.liveCount_eq_of_shards _ (table.sameSetup_performAll operations).size_eq
      fun index lt => (shown index lt operations).2]
    refine congrArg (List.foldr (· + ·) 0) (List.map_congr_left fun index member => ?_)
    exact (same index (List.mem_range.mp member)).2.symm
  · intro index lt others sameShare
    rw [(shown index lt others).1, (shown index lt operations).1, sameShare]

/-- A run on two shards, which take turns: in the one an ID is issued again, while in the other
one an ID loses one of its two lookups. -/
def interleaved : List (Operation Nat) :=
  [.lookup 7, .lookup 8, .lookup 7, .forget ⟨2⟩ 1, .forget ⟨3⟩ 1, .lookup 10, .lookup 0,
    .generation ⟨2⟩, .lookupCount ⟨3⟩]

theorem shards_independent_interleaved :
    let table := Table.fresh 0 ⟨2, true⟩ UInt64.ofNat
    (∀ exchange ∈ transcript Table.perform table interleaved, exchange.2 ≠ .found none) ∧
    transcript Table.perform (Table.fresh 0 ⟨1, true⟩ fun _ => 5)
        [.lookup 7, .lookup 7, .forget ⟨2⟩ 1, .lookupCount ⟨2⟩] =
      (table.shareOf 1 (transcript Table.perform table interleaved)).map
        (Prod.map (Operation.renumber (table.slotAt 1)) (Answer.renumber (table.slotAt 1))) ∧
    (performAll Table.perform table interleaved).liveCount = 2 := by
  intro table
  have given : ∀ exchange ∈ transcript Table.perform table interleaved,
      exchange.2 ≠ .found none := by decide
  obtain ⟨_, _, same, counted, _⟩ :=
    shards_independent 0 ⟨2, true⟩ UInt64.ofNat (fun _ _ => 5) interleaved given
  refine ⟨given, same 1 (by decide), counted.trans (by decide)⟩

end UserFs.Inode
