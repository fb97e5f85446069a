import UserFs.Inode.Shard
import Mathlib.Data.List.Nodup

/-!
# The numbers of a slot

The slots of a table share out the inode numbers from `InodeId.firstMinted` on: a slot owns
the numbers that fall to its index modulo the number of slots, and counts them by sequence
numbers. Issuing a number and reading it back agree: `number?_eq_some_iff` says which ID has
which sequence number, and `number?_isSome_of_le` that the numbers are used up from below.

`Numbered` is what a shard keeps true of its slot: the issued IDs are in use or wait, never
both and never twice. Each way in which an ID changes sides has a lemma: `Numbered.reissue`,
`Numbered.extend` and `Numbered.retire`.
-/

namespace UserFs.Inode.Slot

/-- The position of an ID among the IDs of its slot. -/
def sequence (slot : Slot) (id : InodeId) : Nat :=
  (id.raw.toNat - InodeId.firstMinted.toNat) / slot.count

/-- Whether an ID is one that the slot issues. -/
structure Owns (slot : Slot) (id : InodeId) : Prop where
  firstMinted_le : InodeId.firstMinted ≤ id.raw
  index_eq : (id.raw.toNat - InodeId.firstMinted.toNat) % slot.count = slot.index

/-- Whether an ID is one that the slot has issued when `next` is the sequence number that
follows. -/
structure Issued (slot : Slot) (next : Nat) (id : InodeId) : Prop where
  owns : slot.Owns id
  sequence_lt : slot.sequence id < next

theorem firstMinted_toNat : InodeId.firstMinted.toNat = 2 := rfl

theorem Owns.two_le {slot : Slot} {id : InodeId} (owns : slot.Owns id) : 2 ≤ id.raw.toNat :=
  UInt64.le_iff_toNat_le.mp owns.firstMinted_le

theorem Owns.ne_root {slot : Slot} {id : InodeId} (owns : slot.Owns id) : id ≠ .root := by
  rintro rfl
  exact absurd owns.two_le (by decide)

/-- The number of an owned ID is put together from its sequence number and the index. -/
theorem Owns.raw_eq {slot : Slot} {id : InodeId} (owns : slot.Owns id) :
    id.raw.toNat = slot.sequence id * slot.count + 2 + slot.index := by
  have divided := Nat.div_add_mod' (id.raw.toNat - 2) slot.count
  have index := owns.index_eq
  have large := owns.two_le
  rw [firstMinted_toNat] at index
  rw [sequence, firstMinted_toNat]
  omega

theorem number?_eq (slot : Slot) (next : Nat) : slot.number? next =
    if next * slot.count + 2 + slot.index < UInt64.size then
      some ⟨.ofNat (next * slot.count + 2 + slot.index)⟩
    else none := rfl

theorem number?_eq_some_iff {slot : Slot} (inRange : slot.index < slot.count) {next : Nat}
    {id : InodeId} : slot.number? next = some id ↔ slot.Owns id ∧ slot.sequence id = next := by
  rw [number?_eq]
  constructor
  · intro numbered
    split at numbered
    · next fits =>
      obtain rfl := Option.some.inj numbered
      have raw : (UInt64.ofNat (next * slot.count + 2 + slot.index)).toNat =
          next * slot.count + 2 + slot.index := UInt64.toNat_ofNat_of_lt' fits
      -- in this form division by the number of slots gives `next`, and leaves the index
      have offset : next * slot.count + 2 + slot.index - 2 = slot.index + slot.count * next := by
        rw [Nat.mul_comm]
        omega
      refine ⟨⟨?_, ?_⟩, ?_⟩
      · rw [UInt64.le_iff_toNat_le, raw, firstMinted_toNat]
        omega
      · rw [raw, firstMinted_toNat, offset, Nat.add_mul_mod_self_left, Nat.mod_eq_of_lt inRange]
      · rw [sequence, raw, firstMinted_toNat, offset, Nat.add_mul_div_left _ _ (by omega),
          Nat.div_eq_of_lt inRange, Nat.zero_add]
    · cases numbered
  · rintro ⟨owns, rfl⟩
    rw [← owns.raw_eq, if_pos id.raw.toNat_lt_size, UInt64.ofNat_toNat]

/-- Where a sequence number has an ID, so have all smaller ones. -/
theorem number?_isSome_of_le {slot : Slot} {lower upper : Nat} (le : lower ≤ upper)
    (numbered : (slot.number? upper).isSome) : (slot.number? lower).isSome := by
  rw [number?_eq] at numbered ⊢
  have scaled := Nat.mul_le_mul_right slot.count le
  split at numbered
  · rw [if_pos (by omega)]
    rfl
  · cases numbered

/-- An ID is of one slot only. -/
theorem Owns.index_unique {count first second : Nat} {recycle : Bool} {id : InodeId}
    (owns : (⟨count, first, recycle⟩ : Slot).Owns id)
    (other : (⟨count, second, recycle⟩ : Slot).Owns id) : first = second :=
  owns.index_eq.symm.trans other.index_eq

/-- The ID that a slot issues next was not issued before, and counts as issued afterwards. -/
theorem issued_succ_iff {slot : Slot} (inRange : slot.index < slot.count) {next : Nat}
    {fresh : InodeId} (numbered : slot.number? next = some fresh) (id : InodeId) :
    slot.Issued (next + 1) id ↔ id = fresh ∨ slot.Issued next id := by
  obtain ⟨owns, rfl⟩ := (number?_eq_some_iff inRange).mp numbered
  constructor
  · rintro ⟨idOwns, lt⟩
    rcases Nat.lt_succ_iff_lt_or_eq.mp lt with lt | same
    · exact .inr ⟨idOwns, lt⟩
    -- the ID with the sequence number `next` is `fresh`, since numbers determine IDs
    · have again := (number?_eq_some_iff inRange).mpr ⟨idOwns, same⟩
      exact .inl (Option.some.inj (again.symm.trans numbered))
  · rintro (rfl | issued)
    · exact ⟨owns, Nat.lt_succ_self _⟩
    · exact ⟨issued.owns, Nat.lt_succ_of_lt issued.sequence_lt⟩

theorem not_issued_of_number? {slot : Slot} (inRange : slot.index < slot.count) {next : Nat}
    {fresh : InodeId} (numbered : slot.number? next = some fresh) : ¬ slot.Issued next fresh := by
  obtain ⟨_, rfl⟩ := (number?_eq_some_iff inRange).mp numbered
  intro issued
  exact Nat.lt_irrefl _ issued.sequence_lt

/-! ## IDs in use and IDs that wait -/

/-- What holds of the IDs of a slot: `live` are those in use, `next` is the sequence number
of the first that was never issued, and `free` are the retired ones that wait. -/
structure Numbered (slot : Slot) (live : InodeId → Prop) (next : Nat) (free : List Incarnation) :
    Prop where
  issued_live : ∀ id, live id → slot.Issued next id
  issued_free : ∀ waiting ∈ free, slot.Issued next waiting.id
  /-- No ID waits twice. -/
  free_nodup : (free.map (·.id)).Nodup
  /-- No ID is in use and waits. -/
  not_live_free : ∀ waiting ∈ free, ¬ live waiting.id
  number?_isSome : ∀ sequence < next, (slot.number? sequence).isSome
  /-- No issued ID is lost if IDs are issued again. -/
  live_or_free : slot.recycle = true → ∀ id, slot.Issued next id →
    live id ∨ id ∈ free.map (·.id)
  free_nil : slot.recycle = false → free = []

namespace Numbered

variable {slot : Slot} {live : InodeId → Prop} {next : Nat} {free : List Incarnation}

theorem congr {live' : InodeId → Prop} (numbered : slot.Numbered live next free)
    (same : ∀ id, live' id ↔ live id) : slot.Numbered live' next free := by
  obtain rfl : live' = live := funext fun id => propext (same id)
  exact numbered

theorem start (slot : Slot) : slot.Numbered (fun _ => False) 0 [] where
  issued_live _ no := no.elim
  issued_free _ member := absurd member List.not_mem_nil
  free_nodup := List.nodup_nil
  not_live_free _ _ no := no
  number?_isSome _ lt := absurd lt (Nat.not_lt_zero _)
  live_or_free _ _ issued := absurd issued.sequence_lt (Nat.not_lt_zero _)
  free_nil _ := rfl

/-- The ID that has waited longest comes into use. -/
theorem reissue {retired : Incarnation} {waiting : List Incarnation}
    (numbered : slot.Numbered live next (retired :: waiting)) :
    slot.Numbered (fun id => id = retired.id ∨ live id) next waiting := by
  have nodup := numbered.free_nodup
  rw [List.map_cons, List.nodup_cons] at nodup
  refine ⟨?_, ?_, nodup.2, ?_, numbered.number?_isSome, ?_, ?_⟩
  · rintro id (rfl | isLive)
    · exact numbered.issued_free retired List.mem_cons_self
    · exact numbered.issued_live id isLive
  · intro other member
    exact numbered.issued_free other (List.mem_cons_of_mem _ member)
  · rintro other member (same | isLive)
    · exact nodup.1 (same ▸ List.mem_map_of_mem member)
    · exact numbered.not_live_free other (List.mem_cons_of_mem _ member) isLive
  · intro recycles id issued
    rcases numbered.live_or_free recycles id issued with isLive | waits
    · exact .inl (.inr isLive)
    · rcases List.mem_cons.mp waits with same | waits
      · exact .inl (.inl same)
      · exact .inr waits
  · intro kept
    cases numbered.free_nil kept

/-- The next number comes into use. -/
theorem extend (inRange : slot.index < slot.count) {fresh : InodeId}
    (numbered : slot.Numbered live next free) (number : slot.number? next = some fresh) :
    slot.Numbered (fun id => id = fresh ∨ live id) (next + 1) free := by
  have issued := issued_succ_iff inRange number
  refine ⟨?_, ?_, numbered.free_nodup, ?_, ?_, ?_, numbered.free_nil⟩
  · rintro id (rfl | isLive)
    · exact (issued id).mpr (.inl rfl)
    · exact (issued id).mpr (.inr (numbered.issued_live id isLive))
  · intro other member
    exact (issued other.id).mpr (.inr (numbered.issued_free other member))
  · rintro other member (same | isLive)
    · exact not_issued_of_number? inRange number (same ▸ numbered.issued_free other member)
    · exact numbered.not_live_free other member isLive
  · intro sequence lt
    exact number?_isSome_of_le (Nat.le_of_lt_succ lt) (by rw [number]; rfl)
  · intro recycles id isIssued
    rcases (issued id).mp isIssued with same | before
    · exact .inl (.inl same)
    · rcases numbered.live_or_free recycles id before with isLive | waits
      · exact .inl (.inr isLive)
      · exact .inr waits

/-- An ID goes out of use, and waits if IDs are issued again. -/
theorem retire {id : InodeId} (numbered : slot.Numbered live next free) (isLive : live id)
    (generation : Generation) :
    slot.Numbered (fun other => other ≠ id ∧ live other) next
      (if slot.recycle then free ++ [⟨id, generation⟩] else free) := by
  cases recycles : slot.recycle with
  | false =>
    rw [if_neg Bool.false_ne_true]
    exact {
      numbered with
      issued_live := fun other used => numbered.issued_live other used.2
      not_live_free := fun other member used => numbered.not_live_free other member used.2
      live_or_free := fun yes => absurd yes (by rw [recycles]; exact Bool.false_ne_true) }
  | true =>
    rw [if_pos rfl]
    -- the ID was in use until now, so it is not in the queue it is appended to
    have dead : id ∉ free.map (·.id) := by
      intro member
      obtain ⟨waiting, waits, rfl⟩ := List.mem_map.mp member
      exact numbered.not_live_free waiting waits isLive
    refine ⟨fun other used => numbered.issued_live other used.2, ?_, ?_, ?_,
      numbered.number?_isSome, ?_, ?_⟩
    · intro other member
      rcases List.mem_append.mp member with waits | added
      · exact numbered.issued_free other waits
      · obtain rfl := List.mem_singleton.mp added
        exact numbered.issued_live id isLive
    · rw [List.map_append, List.map_singleton]
      exact numbered.free_nodup.append (List.nodup_singleton _)
        (List.disjoint_singleton.mpr dead)
    · rintro other member ⟨different, used⟩
      rcases List.mem_append.mp member with waits | added
      · exact numbered.not_live_free other waits used
      · exact different (by rw [List.mem_singleton.mp added])
    · intro _ other issued
      rw [List.map_append, List.mem_append, List.map_singleton, List.mem_singleton]
      by_cases same : other = id
      · exact .inr (.inr same)
      · rcases numbered.live_or_free recycles other issued with used | waits
        · exact .inl ⟨same, used⟩
        · exact .inr (.inl waits)
    · intro kept
      rw [recycles] at kept
      cases kept

end Numbered

end UserFs.Inode.Slot
