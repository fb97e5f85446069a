import UserFs.Proofs.Inode.Run

/-!
# Forgets in parts

The kernel may give lookups of an ID back at once or in parts, and nobody can tell afterwards
which it did:

* **one shard** — after a first part the ID is live with fewer lookups, or it is gone for good.
  Either way a second part leaves what the two together leave, and is told what they are told
  unless the first one has already taken the ID (`Shard.forget_forget`);
* **the table** — both parts reach the same shard (`Table.forget_setShard`), so the same holds of
  the table (`Table.forget_forget`), and by induction of any number of parts (`Table.run_parts`).

Nothing here needs that the table is consistent.
-/

namespace UserFs.Inode

/-- What is told of a first part of a forget, of the second part, and of both at once. -/
inductive InParts : ForgetOutcome → ForgetOutcome → ForgetOutcome → Prop
  /-- Lookups are left after both parts. -/
  | remaining {before left : UInt64} : InParts (.remaining before) (.remaining left) (.remaining left)
  /-- The second part takes the last lookup. -/
  | retired {before : UInt64} : InParts (.remaining before) .retired .retired
  /-- The second part takes more than the first one left. -/
  | overForgotten {before issued forgotten all total : UInt64} :
      InParts (.remaining before) (.overForgotten issued forgotten) (.overForgotten all total)
  /-- The first part took the ID. -/
  | gone {first whole : ForgetOutcome} (taken : ∀ before, first ≠ .remaining before) :
      InParts first .unknown whole
  /-- The root stays. -/
  | pinned : InParts .pinned .pinned .pinned

/-- How many lookups the parts give back. -/
def total : List UInt64 → Nat
  | [] => 0
  | part :: rest => part.toNat + total rest

variable {κ : Type}

/-! ## One shard -/

namespace Shard

theorem dropLookups_dropLookups (shard : Shard κ) (id : InodeId) (first second : UInt64) :
    (shard.dropLookups id first).dropLookups id second = shard.dropLookups id (first + second) := by
  have once : ∀ record : Record κ,
      record.lookups - first - second = record.lookups - (first + second) := by
    intro record
    grind
  simp only [dropLookups, KeyMap.modify_modify, Function.comp_def, once]

variable [DecidableEq κ]

section

variable (slot : Slot) {shard : Shard κ} {id : InodeId} {record : Record κ} {count : UInt64}

theorem forget_of_dead (dead : shard.records.get? id = none) (count : UInt64) :
    shard.forget slot id count = (.unknown, shard) := by
  rw [forget, dead]

theorem forget_of_fewer (live : shard.records.get? id = some record)
    (fewer : count < record.lookups) :
    shard.forget slot id count =
      (.remaining (record.lookups - count), shard.dropLookups id count) := by
  rw [forget, live]
  exact if_pos fewer

theorem forget_of_all (live : shard.records.get? id = some record)
    (all : ¬ count < record.lookups) :
    shard.forget slot id count =
      (if record.lookups < count then .overForgotten record.lookups count else .retired,
        shard.retire slot id record) := by
  rw [forget, live]
  exact if_neg all

end

variable (slot : Slot) (shard : Shard κ) (id : InodeId)

/-- An ID that is retired goes as if no lookup had been given back before. -/
theorem retire_dropLookups (record : Record κ) (given left : UInt64) :
    (shard.dropLookups id given).retire slot id { record with lookups := left } =
      shard.retire slot id record := by
  simp only [retire, dropLookups, KeyMap.erase_modify]

/-- While lookups are left, a second part takes what the two take at once. -/
theorem forget_dropLookups {record : Record κ} (live : shard.records.get? id = some record)
    {first second : UInt64} (fewer : first < record.lookups)
    (small : first.toNat + second.toNat < UInt64.size) :
    ((shard.dropLookups id first).forget slot id second).2 =
        (shard.forget slot id (first + second)).2 ∧
      InParts (.remaining (record.lookups - first))
        ((shard.dropLookups id first).forget slot id second).1
        (shard.forget slot id (first + second)).1 := by
  have left := get?_records_dropLookups shard live first id
  rw [if_pos rfl] at left
  -- what both parts take is compared with the whole count, and does not overflow
  have sum : (first + second).toNat = first.toNat + second.toNat :=
    (UInt64.toNat_add first second).trans (Nat.mod_eq_of_lt small)
  have rest : (record.lookups - first).toNat = record.lookups.toNat - first.toNat :=
    UInt64.toNat_sub_of_le _ _ (UInt64.le_of_lt fewer)
  rw [UInt64.lt_iff_toNat_lt] at fewer
  by_cases both : first + second < record.lookups
  · have second_fewer : second < record.lookups - first := by
      rw [UInt64.lt_iff_toNat_lt] at both ⊢
      omega
    rw [forget_of_fewer slot live both, forget_of_fewer slot left second_fewer]
    have same : record.lookups - (first + second) = record.lookups - first - second := by grind
    refine ⟨shard.dropLookups_dropLookups id first second, ?_⟩
    rw [same]
    exact .remaining
  · have second_all : ¬ second < record.lookups - first := by
      rw [UInt64.lt_iff_toNat_lt] at both ⊢
      omega
    rw [forget_of_all slot live both, forget_of_all slot left second_all]
    refine ⟨shard.retire_dropLookups slot id record first _, ?_⟩
    have exceeds : record.lookups - first < second ↔ record.lookups < first + second := by
      rw [UInt64.lt_iff_toNat_lt, UInt64.lt_iff_toNat_lt]
      omega
    simp only [exceeds]
    split
    · exact .overForgotten
    · exact .retired

theorem forget_forget (first second : UInt64) (small : first.toNat + second.toNat < UInt64.size) :
    ((shard.forget slot id first).2.forget slot id second).2 =
        (shard.forget slot id (first + second)).2 ∧
      InParts (shard.forget slot id first).1 ((shard.forget slot id first).2.forget slot id second).1
        (shard.forget slot id (first + second)).1 := by
  cases live : shard.records.get? id with
  | none =>
    rw [forget_of_dead slot live, forget_of_dead slot live, forget_of_dead slot live]
    exact ⟨rfl, .gone nofun⟩
  | some record =>
    by_cases fewer : first < record.lookups
    · rw [forget_of_fewer slot live fewer]
      exact shard.forget_dropLookups slot id live fewer small
    · have gone : (shard.retire slot id record).records.get? id = none := by
        rw [get?_records_retire, if_pos rfl]
      -- more than enough is enough
      have both : ¬ first + second < record.lookups := by
        rw [UInt64.lt_iff_toNat_lt] at fewer ⊢
        rw [UInt64.toNat_add, Nat.mod_eq_of_lt small]
        omega
      rw [forget_of_all slot live fewer, forget_of_dead slot gone, forget_of_all slot live both]
      refine ⟨rfl, .gone fun before => ?_⟩
      split <;> nofun

end Shard

/-! ## The table -/

namespace Table

theorem setShard_setShard (table : Table κ) (index : Fin table.shards.size)
    (first second : Shard κ) (again : Fin (table.setShard index first).shards.size)
    (same : again.val = index.val) :
    (table.setShard index first).setShard again second = table.setShard index second := by
  simp only [setShard, same, Array.set_set]

variable [DecidableEq κ]

/-- Where one shard was replaced, a forget of one of its IDs reaches the other shard. -/
theorem forget_setShard (table : Table κ) (index : Fin table.shards.size) {id : InodeId}
    (owns : (table.slotAt index).Owns id) (shard : Shard κ) (count : UInt64) :
    (table.setShard index shard).forget id count =
      ((shard.forget (table.slotAt index) id count).1,
        table.setShard index (shard.forget (table.slotAt index) id count).2) := by
  let again : Fin (table.setShard index shard).shards.size :=
    ⟨index.val, (table.size_setShard index shard).symm ▸ index.isLt⟩
  have placed : (table.setShard index shard).shards[again.val]? = some shard := by
    rw [getElem?_setShard, if_pos rfl]
  have ownsAgain : ((table.setShard index shard).slotAt again).Owns id := by
    rw [slotAt_setShard]
    exact owns
  rw [forget_of_owns _ again ownsAgain, getElem_of_getElem? placed, slotAt_setShard,
    setShard_setShard table index _ _ again rfl]

theorem forget_forget (table : Table κ) (id : InodeId) {first second : UInt64}
    (small : first.toNat + second.toNat < UInt64.size) :
    ((table.forget id first).2.forget id second).2 = (table.forget id (first + second)).2 ∧
      InParts (table.forget id first).1 ((table.forget id first).2.forget id second).1
        (table.forget id (first + second)).1 := by
  by_cases isRoot : id = .root
  · subst isRoot
    exact ⟨rfl, .pinned⟩
  · cases routed : table.shardOfId? id with
    | none =>
      have small := shardOfId?_eq_none_iff.mp routed
      rw [forget_of_small table isRoot small, forget_of_small table isRoot small,
        forget_of_small table isRoot small]
      exact ⟨rfl, .gone nofun⟩
    | some index =>
      have owns := shardOfId?_eq_some_iff.mp routed
      obtain ⟨same, told⟩ :=
        (table.shardAt index).forget_forget (table.slotAt index) id first second small
      rw [forget_of_owns table index owns, forget_of_owns table index owns,
        forget_setShard table index owns, same]
      exact ⟨rfl, told⟩

/-- However many lookups are given back in parts, the table is left as if they had been given back
at once. -/
theorem run_parts (table : Table κ) (id : InodeId) {parts : List UInt64} (nonempty : parts ≠ [])
    {whole : UInt64} (all : total parts = whole.toNat) :
    table.run (parts.map fun part => .forget id part) = (table.forget id whole).2 := by
  induction parts generalizing table whole with
  | nil => exact absurd rfl nonempty
  | cons part rest ih =>
    have first : table.run ((part :: rest).map fun part => .forget id part) =
        (table.forget id part).2.run (rest.map fun part => .forget id part) := rfl
    rw [total] at all
    rw [first]
    cases rest with
    | nil =>
      have same : part = whole := UInt64.toNat_inj.mp all
      rw [same]
      rfl
    | cons next others =>
      have less : (whole - part).toNat = whole.toNat - part.toNat :=
        UInt64.toNat_sub_of_le _ _ (UInt64.le_iff_toNat_le.mpr (by omega))
      have small : part.toNat + (whole - part).toNat < UInt64.size := by
        have := whole.toNat_lt_size
        omega
      have sum : part + (whole - part) = whole := by grind
      have left : total (next :: others) = (whole - part).toNat := by omega
      rw [ih (table.forget id part).2 (List.cons_ne_nil next others) left,
        (table.forget_forget id small).1, sum]

end Table

/-! ## The law -/

/-- **Forgets in parts are forgets at once.** Whatever the table and the ID, to give back so many
lookups and then so many more leaves the whole table as it is left when they are given back at
once. If lookups are left after the first part, the second one is told that the ID was retired,
that so many lookups are left, or that too many were given back, exactly when the two at once are;
if not, that the ID is the root's or is not live. So a forget may be split into any number of
parts. -/
theorem parts_make_whole [DecidableEq κ] (table : Table κ) (id : InodeId) :
    (∀ first second : UInt64, first.toNat + second.toNat < UInt64.size →
      let early := table.forget id first
      let late := early.2.forget id second
      let whole := table.forget id (first + second)
      late.2 = whole.2 ∧
      (∀ before, early.1 = .remaining before →
        (late.1 = .retired ↔ whole.1 = .retired) ∧
        (∀ left, late.1 = .remaining left ↔ whole.1 = .remaining left) ∧
        ((∃ issued forgotten, late.1 = .overForgotten issued forgotten) ↔
          ∃ issued forgotten, whole.1 = .overForgotten issued forgotten)) ∧
      ((∀ before, early.1 ≠ .remaining before) → late.1 = .pinned ∨ late.1 = .unknown)) ∧
    ∀ (whole : UInt64) (parts : List UInt64), parts ≠ [] → total parts = whole.toNat →
      table.run (parts.map fun part => .forget id part) = (table.forget id whole).2 := by
  refine ⟨?_, fun whole parts nonempty all => table.run_parts id nonempty all⟩
  intro first second small early late whole
  obtain ⟨same, told⟩ := table.forget_forget id small
  refine ⟨same, ?_, ?_⟩
  · intro before remains
    have inParts : InParts (.remaining before) late.1 whole.1 := remains ▸ told
    generalize late.1 = lateTold, whole.1 = wholeTold at inParts
    cases inParts with
    | remaining | retired | overForgotten => simp
    | gone taken => exact absurd rfl (taken before)
  · intro taken
    have inParts : InParts early.1 late.1 whole.1 := told
    generalize early.1 = earlyTold, late.1 = lateTold, whole.1 = wholeTold at inParts taken
    cases inParts with
    | remaining | retired | overForgotten => exact absurd rfl (taken _)
    | gone => exact .inr rfl
    | pinned => exact .inl rfl

/-- Three lookups of one key are given back as one and two, and as one, none and five. -/
theorem parts_make_whole_of_three :
    let table := (Table.fresh 0 ⟨2, true⟩ UInt64.ofNat).run [.lookup 7, .lookup 7, .lookup 7]
    (table.forget ⟨3⟩ 1).1 = .remaining 2 ∧
      ((table.forget ⟨3⟩ 1).2.forget ⟨3⟩ 2).1 = .retired ∧
      ((table.forget ⟨3⟩ 1).2.forget ⟨3⟩ 2).2 = (table.forget ⟨3⟩ 3).2 ∧
      table.run [.forget ⟨3⟩ 1, .forget ⟨3⟩ 0, .forget ⟨3⟩ 5] = (table.forget ⟨3⟩ 6).2 := by
  intro table
  obtain ⟨twice, often⟩ := parts_make_whole table ⟨3⟩
  obtain ⟨same, told, _⟩ := twice 1 2 (by decide)
  have early : (table.forget ⟨3⟩ 1).1 = .remaining 2 := by decide
  have whole : (table.forget ⟨3⟩ 3).1 = .retired := by decide
  exact ⟨early, (told 2 early).1.mpr whole, same, often 6 [1, 0, 5] (by decide) (by decide)⟩

end UserFs.Inode
