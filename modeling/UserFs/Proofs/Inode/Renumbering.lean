import UserFs.Proofs.Inode.Operation

/-!
# A shard on its own

The only shard of a table issues the numbers 2, 3, 4 and so on; a shard among others issues
every so many, from another start. `Slot.renumber` turns the ID with a sequence number in its
slot into the one that has the same sequence number in the slot that is `alone`. Two shards of
which one is the other renumbered (`Shard.Renumbered`) answer every operation alike up to these
names, and stay so (`Renumbered.perform`), as long as the numbers of the first one last: they
run out first, as they are further apart.
-/

namespace UserFs.Inode

namespace Slot

/-- The slot of the only shard of a table. -/
def alone (slot : Slot) : Slot := ⟨1, 0, slot.recycle⟩

/-- The ID with the same sequence number in the slot that is alone. -/
def renumber (slot : Slot) (id : InodeId) : InodeId :=
  ⟨.ofNat (InodeId.firstMinted.toNat + slot.sequence id)⟩

/-- An incarnation of the ID with the same sequence number. -/
def renumbered (slot : Slot) (incarnation : Incarnation) : Incarnation :=
  ⟨slot.renumber incarnation.id, incarnation.generation⟩

variable {slot : Slot}

theorem toNat_renumber (slot : Slot) (id : InodeId) :
    (slot.renumber id).raw.toNat = 2 + slot.sequence id := by
  have le : slot.sequence id ≤ id.raw.toNat - 2 := Nat.div_le_self _ _
  have lt : id.raw.toNat < UInt64.size := id.raw.toNat_lt_size
  refine UInt64.toNat_ofNat_of_lt' ?_
  rw [firstMinted_toNat]
  have two : 2 < UInt64.size := by decide
  omega

theorem toNat_renumber_of_raw_eq (inRange : slot.index < slot.count) {sequence : Nat}
    {id : InodeId} (number : id.raw.toNat = 2 + slot.index + slot.count * sequence) :
    (slot.renumber id).raw.toNat = 2 + sequence := by
  have offset : id.raw.toNat - 2 = slot.index + slot.count * sequence := by omega
  rw [toNat_renumber, Slot.sequence, firstMinted_toNat, offset,
    Nat.add_mul_div_left _ _ (by omega), Nat.div_eq_of_lt inRange, Nat.zero_add]

theorem owns_alone_iff {id : InodeId} : slot.alone.Owns id ↔ InodeId.firstMinted ≤ id.raw :=
  ⟨Owns.firstMinted_le, fun le => ⟨le, Nat.mod_one _⟩⟩

theorem owns_renumber (slot : Slot) (id : InodeId) : slot.alone.Owns (slot.renumber id) := by
  rw [owns_alone_iff, UInt64.le_iff_toNat_le, toNat_renumber, firstMinted_toNat]
  omega

theorem sequence_renumber (slot : Slot) (id : InodeId) :
    slot.alone.sequence (slot.renumber id) = slot.sequence id := by
  rw [sequence, toNat_renumber, firstMinted_toNat]
  show (2 + slot.sequence id - 2) / 1 = _
  omega

/-- Owned IDs with the same sequence number are the same. -/
theorem renumber_inj {first second : InodeId} (owns : slot.Owns first) (other : slot.Owns second) :
    slot.renumber first = slot.renumber second ↔ first = second := by
  constructor
  · intro same
    have sequences : slot.sequence first = slot.sequence second := by
      rw [← sequence_renumber, same, sequence_renumber]
    have raw := owns.raw_eq
    rw [sequences, ← other.raw_eq] at raw
    obtain ⟨first⟩ := first
    exact congrArg InodeId.mk (UInt64.toNat_inj.mp raw)
  · intro same
    rw [same]

theorem number?_alone (inRange : slot.index < slot.count) {sequence : Nat} {id : InodeId}
    (number : slot.number? sequence = some id) :
    slot.alone.number? sequence = some (slot.renumber id) := by
  obtain ⟨_, rfl⟩ := (number?_eq_some_iff inRange).mp number
  refine (number?_eq_some_iff Nat.one_pos).mpr ⟨owns_renumber slot id, ?_⟩
  exact sequence_renumber slot id

end Slot

variable {κ : Type}

/-- The operation with the names that the IDs of a slot have when it is alone. -/
def Operation.renumber (slot : Slot) : Operation κ → Operation κ
  | lookup key => lookup key
  | forget id count => forget (slot.renumber id) count
  | resolve id => resolve (slot.renumber id)
  | generation id => generation (slot.renumber id)
  | lookupCount id => lookupCount (slot.renumber id)

/-- The answer with the names that the IDs of a slot have when it is alone. -/
def Answer.renumber (slot : Slot) : Answer κ → Answer κ
  | found incarnation? => found (incarnation?.map slot.renumbered)
  | answer => answer

namespace Shard

variable [DecidableEq κ]

/-! ## What is issued, as equations -/

section

variable {slot : Slot} {shard : Shard κ} {key : κ}

theorem lookup_of_absent (absent : shard.ids.get? key = none) :
    shard.lookup slot key = shard.mint slot key := by
  rw [lookup, live?, absent, Option.bind_none]

theorem mint_of_waiting {retired : Incarnation} {waiting : List Incarnation}
    (recycles : slot.recycle = true) (free : shard.free = retired :: waiting) :
    shard.mint slot key = (some ⟨retired.id, retired.generation.next⟩,
      { shard with free := waiting }.issue key ⟨retired.id, retired.generation.next⟩) := by
  rw [mint, if_pos recycles, free]

theorem mint_of_number {id : InodeId} (noneWaits : slot.recycle = true → shard.free = [])
    (number : slot.number? shard.nextSequence = some id) :
    shard.mint slot key = (some ⟨id, .initial⟩,
      { shard with nextSequence := shard.nextSequence + 1 }.issue key ⟨id, .initial⟩) := by
  have queue : (if slot.recycle then shard.free else []) = [] := by
    split
    · next recycles => exact noneWaits recycles
    · rfl
  rw [mint, queue, number]

end

/-! ## The relation -/

/-- Whether a shard holds what another one does, under the names that its IDs have when it is
alone. -/
structure Renumbered (slot : Slot) (shard alone : Shard κ) : Prop where
  records : ∀ id, slot.Owns id →
    alone.records.get? (slot.renumber id) = shard.records.get? id
  ids : ∀ key, alone.ids.get? key = (shard.ids.get? key).map slot.renumber
  nextSequence : alone.nextSequence = shard.nextSequence
  free : alone.free = shard.free.map slot.renumbered
  liveCount : alone.liveCount = shard.liveCount

theorem renumbered_empty (slot : Slot) : Renumbered slot (empty : Shard κ) empty where
  records _ _ := rfl
  ids _ := rfl
  nextSequence := rfl
  free := rfl
  liveCount := rfl

section

variable {slot : Slot} {shard alone : Shard κ} {id : InodeId} {key : κ}

theorem Renumbered.recount (renumbered : Renumbered slot shard alone) (owns : slot.Owns id)
    (change : Record κ → Record κ) :
    Renumbered slot { shard with records := shard.records.modify id change }
      { alone with records := alone.records.modify (slot.renumber id) change } where
  records other otherOwns := by
    simp only [KeyMap.get?_modify, Slot.renumber_inj otherOwns owns,
      renumbered.records other otherOwns]
  ids := renumbered.ids
  nextSequence := renumbered.nextSequence
  free := renumbered.free
  liveCount := by
    simp only [Shard.liveCount, KeyMap.size_modify]
    exact renumbered.liveCount

theorem Renumbered.issue (renumbered : Renumbered slot shard alone) (incarnation : Incarnation)
    (owns : slot.Owns incarnation.id) (key : κ) :
    Renumbered slot (shard.issue key incarnation)
      (alone.issue key (slot.renumbered incarnation)) where
  records other otherOwns := by
    simp only [get?_records_issue, Slot.renumbered, Slot.renumber_inj otherOwns owns,
      renumbered.records other otherOwns]
  ids other := by
    rw [get?_ids_issue, get?_ids_issue]
    split
    · rfl
    · exact renumbered.ids other
  nextSequence := renumbered.nextSequence
  free := renumbered.free
  liveCount := by
    have sizes : alone.records.size = shard.records.size := renumbered.liveCount
    simp only [Shard.liveCount, Shard.issue, KeyMap.size_insert, Slot.renumbered,
      renumbered.records _ owns, sizes]

theorem Renumbered.retire (renumbered : Renumbered slot shard alone) (owns : slot.Owns id)
    (record : Record κ) :
    Renumbered slot (shard.retire slot id record)
      (alone.retire slot.alone (slot.renumber id) record) where
  records other otherOwns := by
    simp only [get?_records_retire, Slot.renumber_inj otherOwns owns,
      renumbered.records other otherOwns]
  ids other := by
    rw [get?_ids_retire, get?_ids_retire]
    split
    · rfl
    · exact renumbered.ids other
  nextSequence := renumbered.nextSequence
  free := by
    simp only [Shard.retire, Slot.alone, renumbered.free]
    split
    · rw [List.map_append, List.map_singleton]
      rfl
    · rfl
  liveCount := by
    have sizes : alone.records.size = shard.records.size := renumbered.liveCount
    simp only [Shard.liveCount, Shard.retire, KeyMap.size_erase, renumbered.records _ owns, sizes]

/-! ## Operations keep it -/

/-- A lookup that does not find the numbers used up is given the same ID by another name. -/
theorem Renumbered.looked {belongs : κ → Prop} (renumbered : Renumbered slot shard alone)
    (wf : shard.Wf slot belongs) (inRange : slot.index < slot.count)
    {found : Option Incarnation} {after : Shard κ} (looked : Looked slot shard key found after)
    (given : found ≠ none) :
    (alone.lookup slot.alone key).1 = found.map slot.renumbered ∧
      Renumbered slot after (alone.lookup slot.alone key).2 := by
  have absentToo : shard.ids.get? key = none → alone.ids.get? key = none := by
    intro absent
    rw [renumbered.ids, absent, Option.map_none]
  cases looked with
  | @counted id record live same =>
    subst same
    have owns := (wf.numbered.issued_live id (.of_get? live)).owns
    have known := (wf.linked.ids_iff record.key id).mpr ⟨record, live, rfl⟩
    have there : alone.live? record.key = some (slot.renumber id, record) := by
      rw [live?, renumbered.ids, known, Option.map_some, Option.bind_some,
        renumbered.records id owns, live, Option.map_some]
    rw [lookup, there]
    exact ⟨rfl, renumbered.recount owns _⟩
  | @reissued retired waiting absent recycles free =>
    have owns := (wf.numbered.issued_free retired (free ▸ List.mem_cons_self)).owns
    have queue : alone.free = slot.renumbered retired :: waiting.map slot.renumbered := by
      rw [renumbered.free, free, List.map_cons]
    have recyclesToo : slot.alone.recycle = true := recycles
    rw [lookup_of_absent (absentToo absent), mint_of_waiting recyclesToo queue]
    have dequeued : Renumbered slot { shard with free := waiting }
        { alone with free := waiting.map slot.renumbered } :=
      { renumbered with free := rfl }
    exact ⟨rfl, dequeued.issue ⟨retired.id, retired.generation.next⟩ owns key⟩
  | @numbered id absent noneWaits number =>
    have owns := ((Slot.number?_eq_some_iff inRange).mp number).1
    have noneWaitsToo : slot.alone.recycle = true → alone.free = [] := by
      intro recycles
      rw [renumbered.free, noneWaits recycles, List.map_nil]
    have numberToo : slot.alone.number? alone.nextSequence = some (slot.renumber id) := by
      rw [renumbered.nextSequence]
      exact Slot.number?_alone inRange number
    rw [lookup_of_absent (absentToo absent), mint_of_number noneWaitsToo numberToo]
    have counted : Renumbered slot { shard with nextSequence := shard.nextSequence + 1 }
        { alone with nextSequence := alone.nextSequence + 1 } :=
      { renumbered with nextSequence := congrArg (· + 1) renumbered.nextSequence }
    exact ⟨rfl, counted.issue ⟨id, .initial⟩ owns key⟩
  | exhausted => exact absurd rfl given

/-- A forget is told the same. -/
theorem Renumbered.forgot (renumbered : Renumbered slot shard alone) (owns : slot.Owns id)
    {count : UInt64} {outcome : ForgetOutcome} {after : Shard κ}
    (forgot : Forgot slot shard id count outcome after) :
    (alone.forget slot.alone (slot.renumber id) count).1 = outcome ∧
      Renumbered slot after (alone.forget slot.alone (slot.renumber id) count).2 := by
  have here := renumbered.records id owns
  cases forgot with
  | unknown dead =>
    rw [forget, here, dead]
    exact ⟨rfl, renumbered⟩
  | remaining live fewer =>
    simp only [forget, here, live, if_pos fewer]
    exact ⟨trivial, renumbered.recount owns _⟩
  | retired live all =>
    simp only [forget, here, live, if_neg all]
    exact ⟨trivial, renumbered.retire owns _⟩

/-- Every operation about a shard is answered alike, up to the names of the IDs. -/
theorem Renumbered.perform {belongs : κ → Prop} (renumbered : Renumbered slot shard alone)
    (wf : shard.Wf slot belongs) (inRange : slot.index < slot.count) {operation : Operation κ}
    (concerns : operation.Concerns slot belongs)
    (given : (shard.perform slot operation).1 ≠ .found none) :
    (alone.perform slot.alone (operation.renumber slot)).1 =
        (shard.perform slot operation).1.renumber slot ∧
      Renumbered slot (shard.perform slot operation).2
        (alone.perform slot.alone (operation.renumber slot)).2 := by
  cases operation with
  | lookup key =>
    have looked := looked_lookup slot wf.linked key
    obtain ⟨same, kept⟩ := renumbered.looked wf inRange looked fun none =>
      given (congrArg Answer.found none)
    exact ⟨congrArg Answer.found same, kept⟩
  | forget id count =>
    obtain ⟨same, kept⟩ := renumbered.forgot concerns (forgot_forget slot shard id count)
    exact ⟨congrArg Answer.forgot same, kept⟩
  | resolve id | generation id | lookupCount id =>
    have here : alone.record? (slot.renumber id) = shard.record? id :=
      renumbered.records id concerns
    simp only [Operation.renumber, Shard.perform, here]
    exact ⟨rfl, renumbered⟩

/-- A run of operations about a shard is answered alike, up to the names of the IDs. -/
theorem Renumbered.performAll {belongs : κ → Prop} (renumbered : Renumbered slot shard alone)
    (wf : shard.Wf slot belongs) (inRange : slot.index < slot.count)
    {operations : List (Operation κ)}
    (concern : ∀ operation ∈ operations, operation.Concerns slot belongs)
    (given : ∀ exchange ∈ transcript (Shard.perform slot) shard operations,
      exchange.2 ≠ .found none) :
    transcript (Shard.perform slot.alone) alone (operations.map (Operation.renumber slot)) =
        (transcript (Shard.perform slot) shard operations).map
          (Prod.map (Operation.renumber slot) (Answer.renumber slot)) ∧
      Renumbered slot (Inode.performAll (Shard.perform slot) shard operations)
        (Inode.performAll (Shard.perform slot.alone) alone
          (operations.map (Operation.renumber slot))) := by
  induction operations generalizing shard alone with
  | nil => exact ⟨rfl, renumbered⟩
  | cons operation rest ih =>
    rw [List.forall_mem_cons] at concern
    rw [transcript, List.forall_mem_cons] at given
    obtain ⟨same, kept⟩ := renumbered.perform wf inRange concern.1 given.1
    obtain ⟨later, left⟩ := ih kept (wf.perform inRange concern.1) concern.2 given.2
    rw [List.map_cons, transcript, transcript, List.map_cons, same, later]
    exact ⟨rfl, left⟩

end

end Shard

end UserFs.Inode
