import UserFs.Proofs.Inode.Numbering

/-!
# What a shard keeps consistent

`Shard.Wf` is the representation invariant of a shard: its two maps are inverse to each other,
its keys are the ones that belong to it, and its numbers are accounted for (`Slot.Numbered`).
`Looked` and `Forgot` say everything that a lookup and a forget can do to a shard, one case
for each outcome (`looked_lookup`, `forgot_forget`); that both keep the invariant
(`Looked.wf`, `Forgot.wf`) goes case by case.

Nothing here needs that lookups are counted without overflow.
-/

namespace UserFs.Inode.Shard

variable {κ : Type}

/-- Whether an ID is live in the shard. -/
def Live (shard : Shard κ) (id : InodeId) : Prop := (shard.records.get? id).isSome

/-- Gives back some, but not all, lookups of an ID. -/
def dropLookups (shard : Shard κ) (id : InodeId) (count : UInt64) : Shard κ :=
  { shard with
    records := shard.records.modify id fun record =>
      { record with lookups := record.lookups - count } }

theorem live_iff {shard : Shard κ} {id : InodeId} :
    shard.Live id ↔ ∃ record, shard.records.get? id = some record :=
  Option.isSome_iff_exists

theorem not_live_iff {shard : Shard κ} {id : InodeId} :
    ¬ shard.Live id ↔ shard.records.get? id = none := by
  rw [Live, Bool.not_eq_true, Option.isSome_eq_false_iff, Option.isNone_iff_eq_none]

theorem Live.of_get? {shard : Shard κ} {id : InodeId} {record : Record κ}
    (live : shard.records.get? id = some record) : shard.Live id :=
  live_iff.mpr ⟨record, live⟩

/-- Where only the count of one ID changes, the same IDs are live. -/
theorem live_recount {shard after : Shard κ} {id : InodeId} {record : Record κ}
    {lookups : UInt64} (live : shard.records.get? id = some record)
    (records : ∀ other, after.records.get? other =
      if other = id then some { record with lookups := lookups } else shard.records.get? other)
    (other : InodeId) : after.Live other ↔ shard.Live other := by
  rw [Live, Live, records]
  split
  · next same =>
    rw [same, live]
    exact Iff.rfl
  · rfl

/-! ## What the steps do to the records -/

theorem get?_records_addLookup (shard : Shard κ) {id : InodeId} {record : Record κ}
    (live : shard.records.get? id = some record) (other : InodeId) :
    (shard.addLookup id).records.get? other =
      if other = id then some { record with lookups := record.lookups + 1 }
      else shard.records.get? other := by
  rw [addLookup, KeyMap.get?_modify]
  split
  · next same => rw [same, live, Option.map_some]
  · rfl

theorem get?_records_dropLookups (shard : Shard κ) {id : InodeId} {record : Record κ}
    (live : shard.records.get? id = some record) (count : UInt64) (other : InodeId) :
    (shard.dropLookups id count).records.get? other =
      if other = id then some { record with lookups := record.lookups - count }
      else shard.records.get? other := by
  rw [dropLookups, KeyMap.get?_modify]
  split
  · next same => rw [same, live, Option.map_some]
  · rfl

variable [DecidableEq κ]

theorem get?_records_issue (shard : Shard κ) (key : κ) (incarnation : Incarnation)
    (other : InodeId) : (shard.issue key incarnation).records.get? other =
      if other = incarnation.id then some ⟨key, incarnation.generation, 1⟩
      else shard.records.get? other :=
  KeyMap.get?_insert _ _ _ _

theorem get?_ids_issue (shard : Shard κ) (key : κ) (incarnation : Incarnation) (other : κ) :
    (shard.issue key incarnation).ids.get? other =
      if other = key then some incarnation.id else shard.ids.get? other :=
  KeyMap.get?_insert _ _ _ _

theorem get?_records_retire (slot : Slot) (shard : Shard κ) (id : InodeId) (record : Record κ)
    (other : InodeId) : (shard.retire slot id record).records.get? other =
      if other = id then none else shard.records.get? other :=
  KeyMap.get?_erase _ _ _

theorem get?_ids_retire (slot : Slot) (shard : Shard κ) (id : InodeId) (record : Record κ)
    (other : κ) : (shard.retire slot id record).ids.get? other =
      if other = record.key then none else shard.ids.get? other :=
  KeyMap.get?_erase _ _ _

theorem live_issue_iff (shard : Shard κ) (key : κ) (incarnation : Incarnation) (id : InodeId) :
    (shard.issue key incarnation).Live id ↔ id = incarnation.id ∨ shard.Live id := by
  rw [Live, get?_records_issue]
  split
  · next same => exact ⟨fun _ => .inl same, fun _ => rfl⟩
  · next different => exact ⟨.inr, fun live => live.resolve_left different⟩

theorem live_retire_iff (slot : Slot) (shard : Shard κ) (id : InodeId) (record : Record κ)
    (other : InodeId) :
    (shard.retire slot id record).Live other ↔ other ≠ id ∧ shard.Live other := by
  rw [Live, get?_records_retire]
  split
  · next same => exact ⟨fun no => absurd no Bool.false_ne_true, fun live => absurd same live.1⟩
  · next different => exact ⟨fun live => ⟨different, live⟩, And.right⟩

/-! ## The invariant -/

/-- The two maps of a shard agree, and hold only keys that belong to it. -/
structure Linked (belongs : κ → Prop) (shard : Shard κ) : Prop where
  ids_iff : ∀ key id, shard.ids.get? key = some id ↔
    ∃ record, shard.records.get? id = some record ∧ record.key = key
  belongs_key : ∀ id record, shard.records.get? id = some record → belongs record.key

/-- The representation invariant of a shard. -/
structure Wf (slot : Slot) (belongs : κ → Prop) (shard : Shard κ) : Prop where
  linked : shard.Linked belongs
  numbered : slot.Numbered shard.Live shard.nextSequence shard.free

/-! ## What a lookup can do -/

/-- Which incarnation a lookup of `key` finds in a shard, and the shard it leaves. -/
inductive Looked (slot : Slot) (shard : Shard κ) (key : κ) : Option Incarnation → Shard κ → Prop
  /-- The key has a live ID: it gets one more lookup. -/
  | counted {id : InodeId} {record : Record κ} (live : shard.records.get? id = some record)
      (same : record.key = key) :
      Looked slot shard key (some ⟨id, record.generation⟩) (shard.addLookup id)
  /-- A retired ID waits: it is issued in its next generation. -/
  | reissued {retired : Incarnation} {waiting : List Incarnation}
      (absent : shard.ids.get? key = none) (recycles : slot.recycle = true)
      (free : shard.free = retired :: waiting) :
      Looked slot shard key (some ⟨retired.id, retired.generation.next⟩)
        ({ shard with free := waiting }.issue key ⟨retired.id, retired.generation.next⟩)
  /-- No ID waits: the next number is issued. -/
  | numbered {id : InodeId} (absent : shard.ids.get? key = none)
      (noneWaits : slot.recycle = true → shard.free = [])
      (number : slot.number? shard.nextSequence = some id) :
      Looked slot shard key (some ⟨id, .initial⟩)
        ({ shard with nextSequence := shard.nextSequence + 1 }.issue key ⟨id, .initial⟩)
  /-- The numbers are used up. -/
  | exhausted (absent : shard.ids.get? key = none)
      (noneWaits : slot.recycle = true → shard.free = [])
      (number : slot.number? shard.nextSequence = none) :
      Looked slot shard key none shard

theorem live?_eq_some {belongs : κ → Prop} {shard : Shard κ} (linked : shard.Linked belongs)
    {id : InodeId} {record : Record κ} (live : shard.records.get? id = some record) :
    shard.live? record.key = some (id, record) := by
  rw [live?, (linked.ids_iff _ _).mpr ⟨record, live, rfl⟩, Option.bind_some, live, Option.map_some]

/-- A key that is known has a live ID. -/
theorem live?_eq_none_iff {belongs : κ → Prop} {shard : Shard κ} (linked : shard.Linked belongs)
    {key : κ} : shard.live? key = none ↔ shard.ids.get? key = none := by
  constructor
  · intro dead
    cases known : shard.ids.get? key with
    | none => rfl
    | some id =>
      obtain ⟨record, live, rfl⟩ := (linked.ids_iff _ _).mp known
      rw [live?_eq_some linked live] at dead
      cases dead
  · intro unknown
    rw [live?, unknown, Option.bind_none]

theorem lookup_of_live {belongs : κ → Prop} (slot : Slot) {shard : Shard κ}
    (linked : shard.Linked belongs) {id : InodeId} {record : Record κ}
    (live : shard.records.get? id = some record) :
    shard.lookup slot record.key = (some ⟨id, record.generation⟩, shard.addLookup id) := by
  rw [lookup, live?_eq_some linked live]

theorem looked_mint (slot : Slot) {shard : Shard κ} {key : κ}
    (absent : shard.ids.get? key = none) :
    Looked slot shard key (shard.mint slot key).1 (shard.mint slot key).2 := by
  unfold mint
  split
  · next retired waiting queue =>
    split at queue
    · next recycles => exact .reissued absent recycles queue
    · cases queue
  · next queue =>
    have noneWaits : slot.recycle = true → shard.free = [] := by
      intro recycles
      rwa [if_pos recycles] at queue
    split
    · next number => exact .exhausted absent noneWaits number
    · next number => exact .numbered absent noneWaits number

theorem looked_lookup {belongs : κ → Prop} (slot : Slot) {shard : Shard κ}
    (linked : shard.Linked belongs) (key : κ) :
    Looked slot shard key (shard.lookup slot key).1 (shard.lookup slot key).2 := by
  cases found : shard.live? key with
  | none =>
    rw [lookup, found]
    exact looked_mint slot ((live?_eq_none_iff linked).mp found)
  | some pair =>
    obtain ⟨id, known, pairEq⟩ := Option.bind_eq_some_iff.mp found
    obtain ⟨record, live, rfl⟩ := Option.map_eq_some_iff.mp pairEq
    obtain ⟨held, again, rfl⟩ := (linked.ids_iff _ _).mp known
    obtain rfl := Option.some.inj (again.symm.trans live)
    rw [lookup_of_live slot linked live]
    exact .counted live rfl

/-! ## What a forget can do -/

/-- What giving back `count` lookups of an ID is told, and the shard it leaves. -/
inductive Forgot (slot : Slot) (shard : Shard κ) (id : InodeId) (count : UInt64) :
    ForgetOutcome → Shard κ → Prop
  /-- The ID is not live. -/
  | unknown (dead : shard.records.get? id = none) : Forgot slot shard id count .unknown shard
  /-- Lookups are left. -/
  | remaining {record : Record κ} (live : shard.records.get? id = some record)
      (fewer : count < record.lookups) :
      Forgot slot shard id count (.remaining (record.lookups - count)) (shard.dropLookups id count)
  /-- No lookup is left, or more were given back than there were. -/
  | retired {record : Record κ} (live : shard.records.get? id = some record)
      (all : ¬ count < record.lookups) :
      Forgot slot shard id count
        (if record.lookups < count then .overForgotten record.lookups count else .retired)
        (shard.retire slot id record)

theorem forgot_forget (slot : Slot) (shard : Shard κ) (id : InodeId) (count : UInt64) :
    Forgot slot shard id count (shard.forget slot id count).1 (shard.forget slot id count).2 := by
  unfold forget
  split
  · next dead => exact .unknown dead
  · next record live =>
    split
    · next fewer => exact .remaining live fewer
    · next all => exact .retired live all

/-! ## The invariant is kept -/

theorem wf_empty (slot : Slot) (belongs : κ → Prop) : (empty : Shard κ).Wf slot belongs where
  linked :=
    { ids_iff := fun _ _ => ⟨nofun, fun ⟨_, live, _⟩ => nomatch live⟩
      belongs_key := nofun }
  numbered := (Slot.Numbered.start slot).congr fun _ => ⟨nofun, False.elim⟩

section

variable {slot : Slot} {belongs : κ → Prop} {shard : Shard κ} {id : InodeId} {record : Record κ}

/-- Where only the count of one ID changes, the maps stay linked. -/
theorem Linked.recount (linked : shard.Linked belongs) {after : Shard κ} {lookups : UInt64}
    (live : shard.records.get? id = some record)
    (records : ∀ other, after.records.get? other =
      if other = id then some { record with lookups := lookups } else shard.records.get? other)
    (ids : after.ids = shard.ids) : after.Linked belongs := by
  constructor
  · intro key other
    rw [ids, linked.ids_iff, records]
    split
    · next same =>
      subst same
      rw [live]
      constructor
      · rintro ⟨_, ⟨⟩, rfl⟩
        exact ⟨_, rfl, rfl⟩
      · rintro ⟨_, ⟨⟩, rfl⟩
        exact ⟨_, rfl, rfl⟩
    · rfl
  · intro other changed there
    rw [records] at there
    split at there
    · cases there
      exact linked.belongs_key id record live
    · exact linked.belongs_key other changed there

theorem Linked.issue (linked : shard.Linked belongs) {key : κ} (belongsKey : belongs key)
    (absent : shard.ids.get? key = none) {incarnation : Incarnation}
    (dead : shard.records.get? incarnation.id = none) :
    (shard.issue key incarnation).Linked belongs := by
  -- a key without an ID is in no record, since the maps were linked before
  have noRecord : ∀ other held, shard.records.get? other = some held → held.key ≠ key := by
    rintro other held there rfl
    rw [(linked.ids_iff _ _).mpr ⟨held, there, rfl⟩] at absent
    cases absent
  constructor
  · intro otherKey other
    rw [get?_ids_issue, get?_records_issue]
    -- the new pair is in both maps; a pair with only one half of it is in neither
    by_cases sameKey : otherKey = key <;> by_cases sameId : other = incarnation.id
    · rw [if_pos sameKey, if_pos sameId, sameId, sameKey]
      exact ⟨fun _ => ⟨_, rfl, rfl⟩, fun _ => rfl⟩
    · rw [if_pos sameKey, if_neg sameId]
      constructor
      · intro found
        exact absurd (Option.some.inj found).symm sameId
      · rintro ⟨held, there, rfl⟩
        exact absurd sameKey (noRecord other held there)
    · rw [if_neg sameKey, if_pos sameId, linked.ids_iff, sameId, dead]
      constructor
      · rintro ⟨_, ⟨⟩, _⟩
      · rintro ⟨_, ⟨⟩, same⟩
        exact absurd same.symm sameKey
    · rw [if_neg sameKey, if_neg sameId, linked.ids_iff]
  · intro other held there
    rw [get?_records_issue] at there
    split at there
    · cases there
      exact belongsKey
    · exact linked.belongs_key other held there

theorem Linked.retire (linked : shard.Linked belongs) (live : shard.records.get? id = some record) :
    (shard.retire slot id record).Linked belongs := by
  have known := (linked.ids_iff record.key id).mpr ⟨record, live, rfl⟩
  constructor
  · intro key other
    rw [get?_ids_retire, get?_records_retire]
    -- no other ID had the key of the retired one, and no other key had its ID
    by_cases sameKey : key = record.key <;> by_cases sameId : other = id
    · rw [if_pos sameKey, if_pos sameId]
      exact ⟨nofun, fun ⟨_, no, _⟩ => nomatch no⟩
    · rw [if_pos sameKey, if_neg sameId]
      constructor
      · nofun
      · rintro ⟨held, there, rfl⟩
        have found := (linked.ids_iff held.key other).mpr ⟨held, there, rfl⟩
        rw [sameKey, known] at found
        exact absurd (Option.some.inj found).symm sameId
    · rw [if_neg sameKey, if_pos sameId, linked.ids_iff, sameId, live]
      constructor
      · rintro ⟨_, ⟨⟩, rfl⟩
        exact absurd rfl sameKey
      · rintro ⟨_, ⟨⟩, _⟩
    · rw [if_neg sameKey, if_neg sameId, linked.ids_iff]
  · intro other held there
    rw [get?_records_retire] at there
    split at there
    · cases there
    · exact linked.belongs_key other held there

theorem Looked.wf (inRange : slot.index < slot.count) {key : κ} {found : Option Incarnation}
    {after : Shard κ} (looked : Looked slot shard key found after) (wf : shard.Wf slot belongs)
    (belongsKey : belongs key) : after.Wf slot belongs := by
  obtain ⟨linked, numbered⟩ := wf
  cases looked with
  | counted live =>
    have records := get?_records_addLookup shard live
    exact ⟨linked.recount live records rfl, numbered.congr (live_recount live records)⟩
  | @reissued retired waiting absent recycles free =>
    rw [free] at numbered
    -- what waits is not live, so the record that is written was not there
    have dead := not_live_iff.mp (numbered.not_live_free _ List.mem_cons_self)
    have queued : { shard with free := waiting }.Linked belongs :=
      ⟨linked.ids_iff, linked.belongs_key⟩
    exact ⟨queued.issue belongsKey absent dead, numbered.reissue.congr (live_issue_iff _ _ _)⟩
  | @numbered fresh absent noneWaits number =>
    have dead := not_live_iff.mp fun live =>
      Slot.not_issued_of_number? inRange number (numbered.issued_live _ live)
    have counted : { shard with nextSequence := shard.nextSequence + 1 }.Linked belongs :=
      ⟨linked.ids_iff, linked.belongs_key⟩
    exact ⟨counted.issue belongsKey absent dead,
      (numbered.extend inRange number).congr (live_issue_iff _ _ _)⟩
  | exhausted => exact ⟨linked, numbered⟩

theorem Forgot.wf {count : UInt64} {outcome : ForgetOutcome} {after : Shard κ}
    (forgot : Forgot slot shard id count outcome after) (wf : shard.Wf slot belongs) :
    after.Wf slot belongs := by
  obtain ⟨linked, numbered⟩ := wf
  cases forgot with
  | unknown => exact ⟨linked, numbered⟩
  | remaining live =>
    have records := get?_records_dropLookups shard live count
    exact ⟨linked.recount live records rfl, numbered.congr (live_recount live records)⟩
  | retired live =>
    exact ⟨linked.retire live,
      (numbered.retire (.of_get? live) _).congr (live_retire_iff slot shard id _)⟩

end

end UserFs.Inode.Shard
