import Mathlib.Data.List.Induction
import UserFs.Proofs.Inode.Run

/-!
# No incarnation is issued twice

The generation of an ID counts its mints. While the ID is live the generation is on its record,
and while it waits to be issued again it is kept in the queue; `Shard.Dated` says that in both
places it is the one of the last mint, and that IDs with unused numbers were never minted.

* **every lookup** is given the generation of the last mint of the ID (`Table.Dated.found`),
  the first one being 0, and a shard that does not reissue IDs mints none twice
  (`Table.Dated.once`);
* **generations are not used twice** as long as fewer than `2 ^ 64` mints are made
  (`incarnations_unique`): the incarnations that were minted are distinct, and one that was
  retired is never seen again.
-/

namespace UserFs.Inode

variable {κ : Type}

/-! ## Counting mints -/

/-- The incarnation that a mint issued. -/
def Event.issued? : Event κ → Option Incarnation
  | .minted _ incarnation => some incarnation
  | _ => none

/-- The incarnations that were minted, in order. -/
def issued (events : List (Event κ)) : List Incarnation := events.filterMap Event.issued?

/-- How often an ID was minted. -/
def mintCount (id : InodeId) (events : List (Event κ)) : Nat := events.countP (Event.mints id)

/-- Whether a generation is the one that an ID has after so many mints: 0 after the first, and
so on modulo `2 ^ 64`. -/
def Latest (count : Nat) (generation : Generation) : Prop :=
  ∃ earlier, count = earlier + 1 ∧ generation = ⟨.ofNat earlier⟩

theorem Latest.next {count : Nat} {generation : Generation} (latest : Latest count generation) :
    Latest (count + 1) generation.next := by
  obtain ⟨earlier, rfl, rfl⟩ := latest
  refine ⟨earlier + 1, rfl, ?_⟩
  rw [UInt64.ofNat_add]
  rfl

/-- Up to `2 ^ 64` mints have different generations. -/
theorem Latest.count_unique {first second : Nat} {generation : Generation}
    (one : Latest first generation) (two : Latest second generation)
    (firstLe : first ≤ UInt64.size) (secondLe : second ≤ UInt64.size) : first = second := by
  obtain ⟨earlier, rfl, rfl⟩ := one
  obtain ⟨other, rfl, same⟩ := two
  have raw := congrArg UInt64.toNat (Generation.mk.inj same)
  rw [UInt64.toNat_ofNat_of_lt' firstLe, UInt64.toNat_ofNat_of_lt' secondLe] at raw
  rw [raw]

/-- Whether a lookup was given the generation of the last mint, where `past` is what happened
before. -/
def Event.Dated (past : List (Event κ)) : Event κ → Prop
  | .minted _ incarnation => Latest (mintCount incarnation.id past + 1) incarnation.generation
  | .returned _ incarnation =>
    incarnation.id ≠ .root → Latest (mintCount incarnation.id past) incarnation.generation
  | .exhausted _ | .forgot _ _ _ => True

theorem mintCount_concat (id : InodeId) (events : List (Event κ)) (event : Event κ) :
    mintCount id (events ++ [event]) = mintCount id events + if event.mints id then 1 else 0 := by
  rw [mintCount, List.countP_append, List.countP_singleton, mintCount]

theorem mintCount_concat_of_not_mints {id : InodeId} {event : Event κ}
    (mints : event.mints id = false) (events : List (Event κ)) :
    mintCount id (events ++ [event]) = mintCount id events := by
  rw [mintCount_concat, mints, if_neg Bool.false_ne_true, Nat.add_zero]

theorem mintCount_concat_of_mints {id : InodeId} {event : Event κ}
    (mints : event.mints id = true) (events : List (Event κ)) :
    mintCount id (events ++ [event]) = mintCount id events + 1 := by
  rw [mintCount_concat, if_pos mints]

theorem mintCount_append (id : InodeId) (first second : List (Event κ)) :
    mintCount id (first ++ second) = mintCount id first + mintCount id second :=
  List.countP_append

theorem mintCount_le_of_prefix (id : InodeId) {early events : List (Event κ)}
    (before : early <+: events) : mintCount id early ≤ mintCount id events :=
  before.sublist.countP_le

/-- No ID is minted more often than anything is. -/
theorem mintCount_le_length (id : InodeId) (events : List (Event κ)) :
    mintCount id events ≤ (issued events).length := by
  rw [issued, List.length_filterMap_eq_countP]
  refine List.countP_mono_left fun event _ mints => ?_
  cases event with
  | minted => rfl
  | _ => cases mints

/-! ## An ID that is not live -/

namespace Table

variable {table : Table κ} {event : Event κ}

/-- An ID that is not live stays so, and no lookup is given it, until it is minted. -/
theorem Wf.dead_until_minted [DecidableEq κ] (wf : table.Wf) {id : InodeId} (notRoot : id ≠ .root)
    (dead : table.record? id = none) (calls : List (Call κ)) :
    (mintCount id (table.history calls) = 0 → (table.run calls).record? id = none) ∧
    ∀ before event, before ++ [event] <+: table.history calls → event.finds id = true →
      0 < mintCount id (before ++ [event]) := by
  refine wf.run_induction (motive := fun past now =>
    (mintCount id past = 0 → now.record? id = none) ∧
    ∀ before event, before ++ [event] <+: past → event.finds id = true →
      0 < mintCount id (before ++ [event])) ⟨fun _ => dead, ?_⟩ ?_ calls
  · intro before event early
    exact absurd (List.prefix_nil.mp early)
      (List.append_ne_nil_of_right_ne_nil _ (List.cons_ne_nil _ _))
  · rintro past now call nowWf ⟨unminted, earlier⟩
    have step := nowWf.step call
    generalize (now.call call).1 = event, (now.call call).2 = after at step ⊢
    have total := mintCount_concat id past event
    -- either the ID was minted by now, or it is as dead as before
    have nowOrNever : 0 < mintCount id (past ++ [event]) ∨
        event.finds id = false ∧ after.record? id = none := by
      by_cases none : mintCount id past = 0
      · rcases step.of_dead notRoot (unminted none) with mints | idle
        · rw [if_pos mints] at total
          exact .inl (by omega)
        · exact .inr idle
      · exact .inl (by omega)
    constructor
    · intro none
      exact (nowOrNever.resolve_left (by omega)).2
    · intro before last early finds
      rcases List.prefix_concat_iff.mp early with whole | early
      · obtain ⟨rfl, same⟩ := List.append_inj' whole rfl
        cases same
        refine nowOrNever.resolve_right fun idle => ?_
        rw [finds] at idle
        exact Bool.false_ne_true idle.1.symm
      · exact earlier before last early finds

end Table

/-! ## The generations of a shard -/

/-- The generations in a shard are those of the last mints, where `minted` counts the mints of
each ID. -/
structure Shard.Dated (slot : Slot) (minted : InodeId → Nat) (shard : Shard κ) : Prop where
  live : ∀ id record, shard.records.get? id = some record → Latest (minted id) record.generation
  free : ∀ waiting ∈ shard.free, Latest (minted waiting.id) waiting.generation
  unissued : ∀ id, slot.Owns id → shard.nextSequence ≤ slot.sequence id → minted id = 0

namespace Shard

variable {slot : Slot} {minted : InodeId → Nat} {shard : Shard κ}

/-- What waits was minted before. -/
theorem Dated.minted_pos (dated : shard.Dated slot minted) {waiting : Incarnation}
    (member : waiting ∈ shard.free) : 0 < minted waiting.id := by
  obtain ⟨earlier, counted, _⟩ := dated.free waiting member
  rw [counted]
  exact Nat.succ_pos earlier

/-- What is minted in other shards does not matter. -/
theorem Dated.congr (dated : shard.Dated slot minted)
    (numbered : slot.Numbered shard.Live shard.nextSequence shard.free)
    {minted' : InodeId → Nat} (same : ∀ id, slot.Owns id → minted' id = minted id) :
    shard.Dated slot minted' where
  live id record live := by
    rw [same id (numbered.issued_live id (.of_get? live)).owns]
    exact dated.live id record live
  free waiting member := by
    rw [same _ (numbered.issued_free waiting member).owns]
    exact dated.free waiting member
  unissued id owns unused := by
    rw [same id owns]
    exact dated.unissued id owns unused

/-- Counting lookups leaves the generations alone. -/
theorem Dated.recount (dated : shard.Dated slot minted) {after : Shard κ} {id : InodeId}
    {record : Record κ} {lookups : UInt64} (live : shard.records.get? id = some record)
    (records : ∀ other, after.records.get? other =
      if other = id then some { record with lookups := lookups } else shard.records.get? other)
    (free : after.free = shard.free) (next : after.nextSequence = shard.nextSequence) :
    after.Dated slot minted where
  live other changed there := by
    rw [records] at there
    split at there
    · next same =>
      cases there
      exact same ▸ dated.live id record live
    · exact dated.live other changed there
  free waiting member := dated.free waiting (free ▸ member)
  unissued other owns unused := dated.unissued other owns (next ▸ unused)

variable [DecidableEq κ]

/-- A mint leaves the generations of all other IDs alone. -/
theorem Dated.issue (dated : shard.Dated slot minted) (key : κ) {incarnation : Incarnation}
    {minted' : InodeId → Nat} (latest : Latest (minted' incarnation.id) incarnation.generation)
    (others : ∀ id, id ≠ incarnation.id → minted' id = minted id)
    (notFree : incarnation.id ∉ shard.free.map (·.id))
    (used : slot.sequence incarnation.id < shard.nextSequence) :
    (shard.issue key incarnation).Dated slot minted' where
  live id record live := by
    rw [get?_records_issue] at live
    split at live
    · next same =>
      cases live
      exact same ▸ latest
    · next different =>
      rw [others id different]
      exact dated.live id record live
  free waiting member := by
    rw [others waiting.id fun same => notFree (same ▸ List.mem_map_of_mem member)]
    exact dated.free waiting member
  unissued id owns unused := by
    rw [others id fun same => Nat.not_lt.mpr unused (same ▸ used)]
    exact dated.unissued id owns unused

/-- A retired ID takes its generation along to the queue. -/
theorem Dated.retire (dated : shard.Dated slot minted) {id : InodeId} {record : Record κ}
    (live : shard.records.get? id = some record) :
    (shard.retire slot id record).Dated slot minted where
  live other there found := by
    rw [get?_records_retire] at found
    split at found
    · cases found
    · exact dated.live other there found
  free waiting member := by
    have queued : waiting ∈ if slot.recycle then shard.free ++ [⟨id, record.generation⟩]
        else shard.free := member
    split at queued
    · rcases List.mem_append.mp queued with earlier | last
      · exact dated.free waiting earlier
      · rw [List.mem_singleton.mp last]
        exact dated.live id record live
    · exact dated.free waiting queued
  unissued := dated.unissued

theorem Dated.forgot {id : InodeId} {count : UInt64} {outcome : ForgetOutcome} {after : Shard κ}
    (dated : shard.Dated slot minted) (forgot : Forgot slot shard id count outcome after) :
    after.Dated slot minted := by
  cases forgot with
  | unknown => exact dated
  | remaining live =>
    exact dated.recount live (get?_records_dropLookups shard live count) rfl rfl
  | retired live => exact dated.retire live

end Shard

/-! ## The generations of a table -/

namespace Table

/-- The generations in a table, and those that lookups were given, are those of the last
mints. -/
structure Dated (past : List (Event κ)) (table : Table κ) : Prop where
  shards : ∀ (index : Nat) (shard : Shard κ), table.shards[index]? = some shard →
    shard.Dated (table.slotAt index) fun id => mintCount id past
  found : ∀ before event, before ++ [event] <+: past → event.Dated before
  once : table.recycle = false → ∀ id, mintCount id past ≤ 1

theorem dated_fresh (rootKey : κ) (config : TableConfig) (hash : κ → UInt64) :
    (fresh rootKey config hash).Dated [] where
  shards index shard placed := by
    rw [getElem_fresh rootKey config hash placed]
    exact ⟨nofun, nofun, fun _ _ _ => rfl⟩
  found before event early :=
    absurd (List.prefix_nil.mp early) (List.append_ne_nil_of_right_ne_nil _ (List.cons_ne_nil _ _))
  once _ _ := Nat.zero_le 1

section

variable {table : Table κ} {past : List (Event κ)} {event : Event κ}

theorem Dated.at (dated : table.Dated past) (index : Fin table.shards.size) :
    (table.shardAt index).Dated (table.slotAt index) fun id => mintCount id past :=
  dated.shards index _ (getElem?_fin table index)

/-- The record of a live ID has the generation of the last mint. -/
theorem Dated.latest (dated : table.Dated past) {id : InodeId} {record : Record κ}
    (live : table.record? id = some record) : Latest (mintCount id past) record.generation := by
  obtain ⟨index, shard, placed, _, there⟩ := exists_owns_of_record? live
  exact (dated.shards index shard placed).live id record there

/-- One event more, where `first` says that an ID is minted once if none is reissued. -/
theorem Dated.concat (dated : table.Dated past) {after : Table κ}
    (shards : ∀ (index : Nat) (shard : Shard κ), after.shards[index]? = some shard →
      shard.Dated (after.slotAt index) fun id => mintCount id (past ++ [event]))
    (here : event.Dated past)
    (recycle : after.recycle = table.recycle)
    (first : table.recycle = false → ∀ id, event.mints id = true → mintCount id past = 0) :
    after.Dated (past ++ [event]) where
  shards := shards
  found before last early := by
    rcases List.prefix_concat_iff.mp early with whole | early
    · obtain ⟨rfl, same⟩ := List.append_inj' whole rfl
      cases same
      exact here
    · exact dated.found before last early
  once kept id := by
    rw [recycle] at kept
    cases mints : event.mints id with
    | false =>
      rw [mintCount_concat_of_not_mints mints]
      exact dated.once kept id
    | true =>
      have counted := mintCount_concat_of_mints mints past
      have never := first kept id mints
      omega

/-- An event that mints nothing and leaves the table as it is. -/
theorem Dated.idle (dated : table.Dated past) (quiet : ∀ id, event.mints id = false)
    (here : event.Dated past) : table.Dated (past ++ [event]) := by
  have same : (fun id => mintCount id (past ++ [event])) = fun id => mintCount id past :=
    funext fun id => mintCount_concat_of_not_mints (quiet id) past
  refine dated.concat (by rw [same]; exact dated.shards) here rfl fun _ id mints => ?_
  rw [quiet id] at mints
  cases mints

variable [DecidableEq κ]

/-- An event in one shard that mints, if anything, an ID of that shard. -/
theorem Dated.setShard (dated : table.Dated past) (wf : table.Wf)
    (index : Fin table.shards.size) {shard : Shard κ}
    (changed : shard.Dated (table.slotAt index) fun id => mintCount id (past ++ [event]))
    (owned : ∀ id, event.mints id = true → (table.slotAt index).Owns id)
    (here : event.Dated past)
    (first : table.recycle = false → ∀ id, event.mints id = true → mintCount id past = 0) :
    (table.setShard index shard).Dated (past ++ [event]) := by
  refine dated.concat (fun other otherShard placed => ?_) here rfl first
  rw [slotAt_setShard]
  rw [getElem?_setShard] at placed
  split at placed
  · next same =>
    cases placed
    exact same ▸ changed
  · next different =>
    refine (dated.shards other otherShard placed).congr (wf other otherShard placed).numbered ?_
    intro id owns
    refine mintCount_concat_of_not_mints ?_ past
    rw [← Bool.not_eq_true]
    exact fun mints => different ((owned id mints).index_unique owns)

/-- A mint in a shard from which the ID was taken. -/
theorem Dated.mint (dated : table.Dated past) (wf : table.Wf) (key : κ)
    {incarnation : Incarnation} {index : Fin table.shards.size} {shard : Shard κ}
    (owns : (table.slotAt index).Owns incarnation.id)
    (taken : shard.Dated (table.slotAt index) fun id => mintCount id past)
    (latest : Latest (mintCount incarnation.id past + 1) incarnation.generation)
    (notFree : incarnation.id ∉ shard.free.map (·.id))
    (used : (table.slotAt index).sequence incarnation.id < shard.nextSequence)
    (first : table.recycle = false → mintCount incarnation.id past = 0) :
    (table.setShard index (shard.issue key incarnation)).Dated
      (past ++ [.minted key incarnation]) := by
  have mints : (Event.minted key incarnation).mints incarnation.id = true := decide_eq_true rfl
  have counted := mintCount_concat_of_mints mints past
  refine dated.setShard wf index (taken.issue key (counted ▸ latest) ?_ notFree used) ?_ latest ?_
  · intro id different
    have quiet : (Event.minted key incarnation).mints id = false :=
      decide_eq_false (Ne.symm different)
    exact mintCount_concat_of_not_mints quiet past
  · intro id same
    obtain rfl := of_decide_eq_true same
    exact owns
  · intro kept id same
    obtain rfl := of_decide_eq_true same
    exact first kept

theorem Dated.looked (dated : table.Dated past) (wf : table.Wf) {key : κ}
    {found : Option Incarnation} {shard : Shard κ}
    (looked : Shard.Looked (table.slotAt (table.shardOfKey key))
      (table.shardAt (table.shardOfKey key)) key found shard)
    (result : table.lookup key = (found, table.setShard (table.shardOfKey key) shard)) :
    (table.call (.lookup key)).2.Dated (past ++ [(table.call (.lookup key)).1]) := by
  have numbered := (wf.at (table.shardOfKey key)).numbered
  have shardDated := dated.at (table.shardOfKey key)
  have inRange : (table.slotAt (table.shardOfKey key)).index < table.shards.size :=
    (table.shardOfKey key).isLt
  cases looked with
  | @counted id record live same =>
    have tableLive := wf.record?_of_get? (getElem?_fin table _) live
    rw [call_lookup_of_live result (isValid_of_record? tableLive)]
    have quiet : ∀ other, mintCount other (past ++ [.returned key ⟨id, record.generation⟩]) =
        mintCount other past := fun other => mintCount_concat_of_not_mints rfl past
    refine dated.setShard wf _ ?_ nofun (fun _ => dated.latest tableLive) nofun
    rw [funext quiet]
    exact shardDated.recount live (Shard.get?_records_addLookup _ live) rfl rfl
  | @reissued retired waiting absent recycles free =>
    rw [free] at numbered
    have owns := (numbered.issued_free retired List.mem_cons_self).owns
    have dead := numbered.not_live_free retired List.mem_cons_self
    have nodup := numbered.free_nodup
    rw [List.map_cons, List.nodup_cons] at nodup
    rw [(call_lookup_of_issue result owns dead).2]
    refine dated.mint wf key owns ⟨shardDated.live, ?_, shardDated.unissued⟩ ?_ nodup.1
      (numbered.issued_free retired List.mem_cons_self).sequence_lt ?_
    · intro other member
      exact shardDated.free other (free ▸ List.mem_cons_of_mem retired member)
    · exact (shardDated.free retired (free ▸ List.mem_cons_self)).next
    · intro kept
      exact absurd recycles (by rw [slotAt, kept]; exact Bool.false_ne_true)
  | @numbered id absent noneWaits number =>
    obtain ⟨owns, sequence⟩ := (Slot.number?_eq_some_iff inRange).mp number
    have dead := fun live =>
      Slot.not_issued_of_number? inRange number (numbered.issued_live _ live)
    have never : mintCount id past = 0 := shardDated.unissued id owns (Nat.le_of_eq sequence.symm)
    have notFree : id ∉ (table.shardAt (table.shardOfKey key)).free.map (·.id) := by
      intro member
      obtain ⟨waiting, waits, rfl⟩ := List.mem_map.mp member
      exact Slot.not_issued_of_number? inRange number (numbered.issued_free waiting waits)
    rw [(call_lookup_of_issue result owns dead).2]
    refine dated.mint wf key owns ⟨shardDated.live, shardDated.free, ?_⟩ ?_ notFree
      (Nat.lt_succ_of_le (Nat.le_of_eq sequence)) fun _ => never
    · intro other otherOwns unused
      exact shardDated.unissued other otherOwns (Nat.le_of_succ_le unused)
    · rw [never]
      exact ⟨0, rfl, rfl⟩
  | exhausted =>
    rw [setShard_self] at result
    simp only [call, result]
    exact dated.idle (fun _ => rfl) trivial

theorem Dated.call (dated : table.Dated past) (wf : table.Wf) (call : Call κ) :
    (table.call call).2.Dated (past ++ [(table.call call).1]) := by
  cases call with
  | lookup key =>
    by_cases isRoot : key = table.rootKey
    · subst isRoot
      rw [call_lookup_of_live table.lookup_rootKey rfl]
      exact dated.idle (fun _ => rfl) fun notRoot => absurd rfl notRoot
    · exact dated.looked wf (wf.looked key) (lookup_of_ne_rootKey table isRoot)
  | forget id count =>
    rw [call_forget]
    by_cases isRoot : id = .root
    · subst isRoot
      exact dated.idle (fun _ => rfl) trivial
    · cases routed : table.shardOfId? id with
      | none =>
        rw [forget_of_small table isRoot (shardOfId?_eq_none_iff.mp routed)]
        exact dated.idle (fun _ => rfl) trivial
      | some index =>
        rw [forget_of_owns table index (shardOfId?_eq_some_iff.mp routed)]
        refine dated.setShard wf index ?_ nofun trivial nofun
        have quiet : ∀ (outcome : ForgetOutcome) (other : InodeId),
            mintCount other (past ++ [.forgot id count outcome]) = mintCount other past :=
          fun outcome other => mintCount_concat_of_not_mints rfl past
        rw [funext (quiet _)]
        exact (dated.at index).forgot (Shard.forgot_forget _ _ id count)

/-- After every run, the generations are those of the last mints. -/
theorem dated_run (rootKey : κ) (config : TableConfig) (hash : κ → UInt64)
    (calls : List (Call κ)) :
    ((fresh rootKey config hash).run calls).Dated ((fresh rootKey config hash).history calls) :=
  (wf_fresh rootKey config hash).run_induction (motive := fun past now => now.Dated past)
    (dated_fresh rootKey config hash) (fun _ _ call wf dated => dated.call wf call) calls

end

end Table

/-! ## The law -/

/-- What a lookup was given has the generation of the last mint, its own included. -/
theorem Event.Dated.latest {past : List (Event κ)} {event : Event κ} (dated : event.Dated past)
    {key : κ} {incarnation : Incarnation} (found : event.found? = some (key, incarnation))
    (notRoot : incarnation.id ≠ .root) :
    Latest (mintCount incarnation.id (past ++ [event])) incarnation.generation := by
  cases event with
  | minted =>
    cases found
    have mints : (Event.minted key incarnation).mints incarnation.id = true := decide_eq_true rfl
    rw [mintCount_concat_of_mints mints]
    exact dated
  | returned =>
    cases found
    rw [mintCount_concat_of_not_mints rfl]
    exact dated notRoot
  | exhausted => cases found
  | forgot => cases found

/-- A mint issues no incarnation that was issued before: the generation of the earlier mint
would belong to a smaller count. -/
theorem not_mem_issued {past : List (Event κ)} {key : κ} {incarnation : Incarnation}
    (dated : ∀ before event, before ++ [event] <+: past ++ [.minted key incarnation] →
      event.Dated before)
    (few : (issued past).length < UInt64.size) : incarnation ∉ issued past := by
  intro again
  obtain ⟨first, member, same⟩ := List.mem_filterMap.mp again
  cases first with
  | minted firstKey other =>
    cases same
    obtain ⟨before, after, rfl⟩ := List.append_of_mem member
    have early : before ++ [.minted firstKey incarnation] <+:
        before ++ .minted firstKey incarnation :: after := ⟨after, by simp⟩
    have one := dated before _ (early.trans (List.prefix_append _ _))
    have two := dated _ (.minted key incarnation) List.prefix_rfl
    have grown := mintCount_le_of_prefix incarnation.id early
    have bound := mintCount_le_length incarnation.id
      (before ++ .minted firstKey incarnation :: after)
    have mints : (Event.minted firstKey incarnation).mints incarnation.id = true :=
      decide_eq_true rfl
    rw [mintCount_concat_of_mints mints] at grown
    have same := Latest.count_unique one two (by omega) (by omega)
    omega
  | _ => cases same

theorem nodup_issued {events : List (Event κ)}
    (dated : ∀ before event, before ++ [event] <+: events → event.Dated before)
    (few : (issued events).length < UInt64.size) : (issued events).Nodup := by
  induction events using List.reverseRecOn with
  | nil => exact List.nodup_nil
  | append_singleton past event ih =>
    have split : issued (past ++ [event]) = issued past ++ event.issued?.toList := by
      rw [issued, List.filterMap_append]
      cases event <;> rfl
    rw [split] at few ⊢
    rw [List.length_append] at few
    have fewer : (issued past).length < UInt64.size := by omega
    have pastNodup : (issued past).Nodup :=
      ih (fun before last early => dated before last (early.trans (List.prefix_append _ _))) fewer
    cases event with
    | minted key incarnation =>
      have unissued := not_mem_issued dated fewer
      exact pastNodup.append (List.nodup_singleton _) (List.disjoint_singleton.mpr unissued)
    | _ =>
      show (issued past ++ []).Nodup
      rwa [List.append_nil]

variable [DecidableEq κ]

/-- A retired incarnation is not seen again: lookups are given later generations of its ID, and
its ID, while live, has one. -/
theorem retired_not_seen {table : Table κ} {past : List (Event κ)} {id : InodeId}
    {generation : Generation} (wf : table.Wf) (notRoot : id ≠ .root)
    (dead : table.record? id = none) (latest : Latest (mintCount id past) generation)
    (calls : List (Call κ)) (dated : (table.run calls).Dated (past ++ table.history calls))
    (few : (issued (past ++ table.history calls)).length < UInt64.size) :
    (∀ event ∈ table.history calls, ∀ key incarnation,
      event.found? = some (key, incarnation) → incarnation ≠ ⟨id, generation⟩) ∧
    (table.run calls).generation? id ≠ some generation := by
  obtain ⟨unminted, found⟩ := wf.dead_until_minted notRoot dead calls
  have bound := mintCount_le_length id (past ++ table.history calls)
  -- a generation of a later mint is another one
  have later : ∀ early, early <+: table.history calls → 0 < mintCount id early →
      ¬ Latest (mintCount id (past ++ early)) generation := by
    intro early before more again
    have grown := mintCount_le_of_prefix id ((List.prefix_append_right_inj past).mpr before)
    rw [mintCount_append] at again grown
    have same := latest.count_unique again (by omega) (by omega)
    omega
  constructor
  · rintro event member key incarnation isFound rfl
    obtain ⟨before, after, split⟩ := List.append_of_mem member
    have early : before ++ [event] <+: table.history calls := ⟨after, by rw [split]; simp⟩
    have finds : event.finds id = true := by
      rw [Event.finds, isFound, Option.any_some, decide_eq_true rfl]
    have there := (List.prefix_append_right_inj past).mpr early
    rw [← List.append_assoc] at there
    have again := (dated.found _ event there).latest isFound notRoot
    rw [List.append_assoc] at again
    exact later _ early (found before event early finds) again
  · intro same
    rw [Table.generation?_of_ne_root notRoot] at same
    obtain ⟨record, live, rfl⟩ := Option.map_eq_some_iff.mp same
    refine later _ List.prefix_rfl (Nat.pos_of_ne_zero fun none => ?_) (dated.latest live)
    rw [unminted none] at live
    cases live

/-- **No incarnation is issued twice.** In every run an ID is minted the first time with the
generation 0, the next time with the generation 1, and so on modulo `2 ^ 64`; if IDs are not
reissued, no ID is minted twice. So as long as fewer than `2 ^ 64` mints are made, all of them
are of different incarnations, and once an ID that had a generation is not valid any more, no
lookup is given it with that generation and it does not have that generation again. -/
theorem incarnations_unique (rootKey : κ) (config : TableConfig) (hash : κ → UInt64)
    (calls : List (Call κ)) :
    let table := Table.fresh rootKey config hash
    (∀ before key incarnation, before ++ [.minted key incarnation] <+: table.history calls →
      incarnation.generation = ⟨.ofNat (mintCount incarnation.id before)⟩) ∧
    (config.recycle = false → ∀ id, mintCount id (table.history calls) ≤ 1) ∧
    ((issued (table.history calls)).length < UInt64.size →
      (issued (table.history calls)).Nodup ∧
      ∀ earlier id count later, calls = earlier ++ [.forget id count] ++ later → ∀ generation,
        (table.run earlier).generation? id = some generation →
        (table.run (earlier ++ [.forget id count])).isValid id = false →
        (∀ event ∈ (table.run (earlier ++ [.forget id count])).history later,
          ∀ key incarnation, event.found? = some (key, incarnation) →
            incarnation ≠ ⟨id, generation⟩) ∧
        ∀ middle, middle <+: later →
          (table.run (earlier ++ [.forget id count] ++ middle)).generation? id ≠
            some generation) := by
  intro table
  have wf : table.Wf := Table.wf_fresh rootKey config hash
  have datedRun : ∀ calls, (table.run calls).Dated (table.history calls) :=
    Table.dated_run rootKey config hash
  refine ⟨?_, ?_, fun few => ⟨nodup_issued (datedRun calls).found few, ?_⟩⟩
  · intro before key incarnation early
    obtain ⟨count, counted, same⟩ := (datedRun calls).found before _ early
    rw [same, Nat.succ_inj.mp counted]
  · intro kept
    exact (datedRun calls).once ((table.sameSetup_run calls).recycle_eq.trans kept)
  · rintro earlier id count later rfl generation valid invalid
    have notRoot : id ≠ .root := by
      rintro rfl
      rw [Table.isValid_root] at invalid
      cases invalid
    rw [Table.generation?_of_ne_root notRoot] at valid
    obtain ⟨record, live, rfl⟩ := Option.map_eq_some_iff.mp valid
    rw [Table.isValid_of_ne_root notRoot, Option.isSome_eq_false_iff,
      Option.isNone_iff_eq_none] at invalid
    let retiring := earlier ++ [Call.forget id count]
    have latest : Latest (mintCount id (table.history retiring)) record.generation := by
      have mints : ((table.run earlier).call (.forget id count)).1.mints id = false := rfl
      have quiet := mintCount_concat_of_not_mints mints (table.history earlier)
      have last := (datedRun earlier).latest live
      rw [Table.history_append]
      exact quiet ▸ last
    have fewer : ∀ middle, middle <+: later →
        (issued (table.history (retiring ++ middle))).length < UInt64.size := by
      rintro middle ⟨rest, rfl⟩
      rw [← List.append_assoc, Table.history_append, issued, List.filterMap_append,
        List.length_append] at few
      exact Nat.lt_of_le_of_lt (Nat.le_add_right _ _) few
    have unseen := fun middle (before : middle <+: later) =>
      retired_not_seen (wf.run retiring) notRoot invalid latest middle
        (by rw [← Table.run_append, ← Table.history_append]; exact datedRun _)
        (by rw [← Table.history_append]; exact fewer middle before)
    refine ⟨(unseen later List.prefix_rfl).1, fun middle before => ?_⟩
    rw [Table.run_append]
    exact (unseen middle before).2

theorem incarnations_unique_turns :
    let table := Table.fresh 0 ⟨1, true⟩ UInt64.ofNat
    (issued (table.history turns)).length < UInt64.size ∧
    turns = turns.take 3 ++ [.forget ⟨2⟩ 5] ++ turns.drop 4 ∧
    (table.run (turns.take 3)).generation? ⟨2⟩ = some ⟨0⟩ ∧
    (table.run (turns.take 3 ++ [.forget ⟨2⟩ 5])).isValid ⟨2⟩ = false ∧
    (issued (table.history turns)).Nodup ∧
    (table.run (turns.take 3 ++ [.forget ⟨2⟩ 5] ++ turns.drop 4)).generation? ⟨2⟩ ≠ some ⟨0⟩ ∧
    mintCount ⟨2⟩ ((Table.fresh 0 ⟨1, false⟩ UInt64.ofNat).history turns) ≤ 1 := by
  intro table
  have few : (issued (table.history turns)).length < UInt64.size := by decide
  have split : turns = turns.take 3 ++ [.forget ⟨2⟩ 5] ++ turns.drop 4 := by decide
  have valid : (table.run (turns.take 3)).generation? ⟨2⟩ = some ⟨0⟩ := by decide
  have retired : (table.run (turns.take 3 ++ [.forget ⟨2⟩ 5])).isValid ⟨2⟩ = false := by decide
  obtain ⟨_, _, once⟩ := incarnations_unique 0 ⟨1, true⟩ UInt64.ofNat turns
  obtain ⟨nodup, unseen⟩ := once few
  obtain ⟨_, gone⟩ := unseen _ ⟨2⟩ 5 _ split ⟨0⟩ valid retired
  obtain ⟨_, kept, _⟩ := incarnations_unique 0 ⟨1, false⟩ UInt64.ofNat turns
  exact ⟨few, split, valid, retired, nodup, gone _ List.prefix_rfl, kept rfl ⟨2⟩⟩

end UserFs.Inode
