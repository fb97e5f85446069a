import Mathlib.Data.List.Induction
import UserFs.Proofs.Inode.Operation

/-!
# The turnover of a shard

A shard issues IDs and retires them. Over a run, `issuedAt` lists the incarnations that the mints
of a shard issued and `retiredAt` those that forgets retired, in order and as often as it happened.

* **one call** — `Turnover` says what a call does to the IDs that are live in one shard, that wait
  there and that it has numbers left for: nothing, unless it issues an ID again, issues a new one
  or retires one (`Wf.turnover`);
* **a run** — what holds of a fresh shard and is kept by every turnover holds after every run
  (`Wf.turnover_induction`).
-/

namespace UserFs.Inode

variable {κ : Type}

/-- Whether a forget that is told this has retired the ID. -/
def ForgetOutcome.retires : ForgetOutcome → Bool
  | .retired | .overForgotten _ _ => true
  | .remaining _ | .pinned | .unknown => false

/-! ## What is issued -/

namespace Table

/-- The incarnation that an event issues to a key of the shard at a position. -/
def issuedAt? (table : Table κ) (index : Nat) : Event κ → Option Incarnation
  | .minted key incarnation =>
    if (table.shardOfKey key).val = index then some incarnation else none
  | .returned _ _ | .exhausted _ | .forgot _ _ _ => none

/-- The incarnations that the shard at a position issued. -/
def issuedAt (table : Table κ) (index : Nat) (events : List (Event κ)) : List Incarnation :=
  events.filterMap (table.issuedAt? index)

theorem SameSetup.issuedAt?_eq {table other : Table κ} (same : table.SameSetup other) :
    other.issuedAt? = table.issuedAt? := by
  obtain ⟨_, _, hash, size⟩ := same
  funext index event
  cases event with
  | minted key incarnation =>
    have routed : (other.shardOfKey key).val = (table.shardOfKey key).val := by
      simp only [shardOfKey, hash, size]
    rw [issuedAt?, issuedAt?, routed]
  | _ => rfl

theorem issuedAt?_minted (table : Table κ) (key : κ) (incarnation : Incarnation) :
    table.issuedAt? (table.shardOfKey key) (.minted key incarnation) = some incarnation :=
  if_pos rfl

/-- How many IDs are live in the shard at a position. -/
def liveAt (table : Table κ) (index : Nat) : Nat := table.shards[index]?.elim 0 Shard.liveCount

end Table

variable [DecidableEq κ]

theorem Shard.liveCount_issue {shard taken : Shard κ} (records : taken.records = shard.records)
    (key : κ) (incarnation : Incarnation) (dead : ¬ shard.Live incarnation.id) :
    (taken.issue key incarnation).liveCount = shard.liveCount + 1 := by
  show (taken.records.insert incarnation.id _).size = shard.records.size + 1
  rw [KeyMap.size_insert, records, Shard.not_live_iff.mp dead]
  rfl

theorem Shard.liveCount_retire {shard : Shard κ} {id : InodeId} {record : Record κ}
    (live : shard.records.get? id = some record) (slot : Slot) :
    (shard.retire slot id record).liveCount + 1 = shard.liveCount := by
  have present : (shard.records.get? id).isSome := by rw [live]; rfl
  have positive := KeyMap.size_pos present
  show (shard.records.erase id).size + 1 = shard.records.size
  rw [KeyMap.size_erase, if_pos present]
  omega

namespace Table

variable {table : Table κ} {index : Nat} {shard : Shard κ}

/-! ## What is retired -/

/-- The incarnation of the shard at a position that a call retires. -/
def retiredAt? (table : Table κ) (index : Nat) : Call κ → Option Incarnation
  | .lookup _ => none
  | .forget id count =>
    if (table.forget id count).1.retires ∧ (table.shardOfId? id).map Fin.val = some index then
      (table.generation? id).map fun generation => ⟨id, generation⟩
    else none

/-- The incarnations of the shard at a position that calls retire. -/
def retiredAt (index : Nat) : Table κ → List (Call κ) → List Incarnation
  | _, [] => []
  | table, call :: rest =>
    (table.retiredAt? index call).toList ++ retiredAt index (table.call call).2 rest

theorem retiredAt_concat (table : Table κ) (index : Nat) (calls : List (Call κ))
    (call : Call κ) : table.retiredAt index (calls ++ [call]) =
      table.retiredAt index calls ++ ((table.run calls).retiredAt? index call).toList := by
  induction calls generalizing table with
  | nil => exact List.append_nil _
  | cons first rest ih =>
    rw [List.cons_append, retiredAt, retiredAt, ih, List.append_assoc]
    rfl

theorem issuedAt_concat (table : Table κ) (index : Nat) (calls : List (Call κ)) (call : Call κ) :
    table.issuedAt index (table.history (calls ++ [call])) =
      table.issuedAt index (table.history calls) ++
        ((table.run calls).issuedAt? index ((table.run calls).call call).1).toList := by
  rw [history_append, issuedAt, List.filterMap_append, (table.sameSetup_run calls).issuedAt?_eq]
  simp only [issuedAt, history, List.filterMap_cons, List.filterMap_nil]
  cases table.issuedAt? index ((table.run calls).call call).1 <;> rfl

/-! ## One call -/

/-- What a call does to the IDs of a shard. -/
inductive Turnover (table : Table κ) (index : Nat) (shard : Shard κ) (call : Call κ)
    (event : Event κ) (after : Shard κ) : Prop
  /-- No ID of the shard is issued or retired. -/
  | quiet (issues : table.issuedAt? index event = none)
      (retires : table.retiredAt? index call = none)
      (free : after.free = shard.free) (next : after.nextSequence = shard.nextSequence)
      (live : after.liveCount = shard.liveCount)
  /-- The ID that has waited longest is issued in its next generation. -/
  | reissued {first : Incarnation} {waiting : List Incarnation}
      (issues : table.issuedAt? index event = some ⟨first.id, first.generation.next⟩)
      (retires : table.retiredAt? index call = none) (recycles : table.recycle = true)
      (queue : shard.free = first :: waiting) (free : after.free = waiting)
      (next : after.nextSequence = shard.nextSequence)
      (live : after.liveCount = shard.liveCount + 1)
  /-- No ID waits, and the next number is issued. -/
  | numbered {id : InodeId} (issues : table.issuedAt? index event = some ⟨id, .initial⟩)
      (retires : table.retiredAt? index call = none)
      (noneWaits : table.recycle = true → shard.free = [])
      (number : (table.slotAt index).number? shard.nextSequence = some id)
      (free : after.free = shard.free) (next : after.nextSequence = shard.nextSequence + 1)
      (live : after.liveCount = shard.liveCount + 1)
  /-- A live ID is retired, and waits if IDs are issued again. -/
  | retired {incarnation : Incarnation} (issues : table.issuedAt? index event = none)
      (retires : table.retiredAt? index call = some incarnation)
      (free : after.free =
        if table.recycle then shard.free ++ [incarnation] else shard.free)
      (next : after.nextSequence = shard.nextSequence)
      (live : after.liveCount + 1 = shard.liveCount)

/-- A lookup issues nothing to the keys of other shards. -/
theorem issuedAt?_call_lookup {key : κ} (elsewhere : (table.shardOfKey key).val ≠ index) :
    table.issuedAt? index (table.call (.lookup key)).1 = none := by
  simp only [call]
  split
  · rfl
  · split
    · rfl
    · exact if_neg elsewhere

theorem Wf.turnover_of_looked (wf : table.Wf) {key : κ} {found : Option Incarnation}
    {after : Shard κ}
    (looked : Shard.Looked (table.slotAt (table.shardOfKey key))
      (table.shardAt (table.shardOfKey key)) key found after)
    (result : table.lookup key = (found, table.setShard (table.shardOfKey key) after)) :
    Turnover table (table.shardOfKey key) (table.shardAt (table.shardOfKey key)) (.lookup key)
      (table.call (.lookup key)).1 after := by
  have numbered := (wf.at (table.shardOfKey key)).numbered
  cases looked with
  | counted live =>
    have tableLive := wf.record?_of_get? (getElem?_fin table _) live
    rw [call_lookup_of_live result (isValid_of_record? tableLive)]
    exact .quiet rfl rfl rfl rfl (KeyMap.size_modify _ _ _)
  | @reissued first waiting _ recycles queue =>
    rw [queue] at numbered
    have owns := (numbered.issued_free first List.mem_cons_self).owns
    have dead := numbered.not_live_free first List.mem_cons_self
    rw [(call_lookup_of_issue result owns dead).2]
    exact .reissued (table.issuedAt?_minted key _) rfl recycles queue rfl rfl
      (Shard.liveCount_issue rfl key ⟨first.id, first.generation.next⟩ dead)
  | @numbered id _ noneWaits number =>
    have inRange : (table.slotAt (table.shardOfKey key)).index < table.shards.size :=
      (table.shardOfKey key).isLt
    have owns := ((Slot.number?_eq_some_iff inRange).mp number).1
    have dead : ¬ (table.shardAt (table.shardOfKey key)).Live id := fun live =>
      Slot.not_issued_of_number? inRange number (numbered.issued_live _ live)
    rw [(call_lookup_of_issue result owns dead).2]
    exact .numbered (table.issuedAt?_minted key _) rfl noneWaits number rfl rfl
      (Shard.liveCount_issue rfl key ⟨id, .initial⟩ dead)
  | exhausted =>
    have told : (table.call (.lookup key)).1 = .exhausted key := by simp only [Table.call, result]
    rw [told]
    exact .quiet rfl rfl rfl rfl rfl

theorem turnover_of_forgot {id : InodeId} {count : UInt64} {index : Fin table.shards.size}
    (owns : (table.slotAt index).Owns id) {outcome : ForgetOutcome} {after : Shard κ}
    (forgot : Shard.Forgot (table.slotAt index) (table.shardAt index) id count outcome after)
    (told : (table.forget id count).1 = outcome) :
    Turnover table index (table.shardAt index) (.forget id count) (.forgot id count outcome)
      after := by
  have spared : outcome.retires = false → table.retiredAt? index (.forget id count) = none := by
    intro spares
    rw [retiredAt?, told, spares]
    exact if_neg fun both => Bool.false_ne_true both.1
  cases forgot with
  | unknown => exact .quiet rfl (spared rfl) rfl rfl rfl
  | remaining => exact .quiet rfl (spared rfl) rfl rfl (KeyMap.size_modify _ _ _)
  | @retired record live =>
    have here := (record?_of_owns (getElem?_fin table index) owns).trans live
    have retires : ∀ lookups, (if lookups < count then ForgetOutcome.overForgotten lookups count
        else .retired).retires = true := by
      intro lookups
      split <;> rfl
    have retired : table.retiredAt? index (.forget id count) = some ⟨id, record.generation⟩ := by
      rw [retiredAt?, told, if_pos ⟨retires _, map_shardOfId?_eq_some_iff.mpr owns⟩,
        generation?_of_ne_root owns.ne_root, here]
      rfl
    exact .retired rfl retired rfl rfl (Shard.liveCount_retire live _)

/-- A call turns over the IDs of the shard that it is about, if it is about one. -/
theorem Wf.turnover (wf : table.Wf) (call : Call κ) (placed : table.shards[index]? = some shard) :
    ∃ after, (table.call call).2.shards[index]? = some after ∧
      Turnover table index shard call (table.call call).1 after := by
  cases call with
  | lookup key =>
    have left : (table.call (.lookup key)).2 = (table.lookup key).2 := rfl
    rw [left]
    by_cases isRoot : key = table.rootKey
    · subst isRoot
      rw [call_lookup_of_live table.lookup_rootKey rfl, lookup_rootKey]
      exact ⟨shard, placed, .quiet rfl rfl rfl rfl rfl⟩
    · have result := lookup_of_ne_rootKey table isRoot
      by_cases here : (table.shardOfKey key).val = index
      · subst here
        obtain rfl := getElem_of_getElem? placed
        refine ⟨_, ?_, wf.turnover_of_looked (wf.looked key) result⟩
        rw [result, getElem?_setShard, if_pos rfl]
      · refine ⟨shard, ?_, .quiet (issuedAt?_call_lookup here) rfl rfl rfl rfl⟩
        rw [result, getElem?_setShard, if_neg here, placed]
  | forget id count =>
    rw [call_forget]
    dsimp only
    by_cases here : (table.shardOfId? id).map Fin.val = some index
    · obtain ⟨origin, routed, rfl⟩ := Option.map_eq_some_iff.mp here
      obtain rfl := getElem_of_getElem? placed
      have owns := shardOfId?_eq_some_iff.mp routed
      have result := forget_of_owns table origin owns count
      have told := congrArg Prod.fst result
      rw [result]
      refine ⟨_, ?_, turnover_of_forgot owns (Shard.forgot_forget _ _ id count) told⟩
      rw [getElem?_setShard, if_pos rfl]
    · have spares : table.retiredAt? index (.forget id count) = none :=
        if_neg fun both => here both.2
      have elsewhere : table.route? (.forget id count) ≠ some index := here
      exact ⟨shard, (getElem?_perform_of_route_ne elsewhere).trans placed,
        .quiet rfl spares rfl rfl rfl⟩

/-! ## A run -/

theorem lt_size_of_run {calls : List (Call κ)}
    (placed : (table.run calls).shards[index]? = some shard) : index < table.shards.size := by
  obtain ⟨lt, _⟩ := Array.getElem?_eq_some_iff.mp placed
  rwa [(table.sameSetup_run calls).size_eq] at lt

theorem exists_shard_of_run (rootKey : κ) (config : TableConfig) (hash : κ → UInt64)
    (calls : List (Call κ)) (inRange : index < max config.shards 1) :
    ∃ shard, ((fresh rootKey config hash).run calls).shards[index]? = some shard := by
  have setup := (fresh rootKey config hash).sameSetup_run calls
  rw [← size_fresh rootKey config hash, ← setup.size_eq] at inRange
  exact ⟨_, Array.getElem?_eq_getElem inRange⟩

/-- What holds of a shard before the first call and is kept by every turnover holds of it after
every run. -/
theorem Wf.turnover_induction (wf : table.Wf) {motive : List (Call κ) → Shard κ → Prop}
    (start : ∀ shard, table.shards[index]? = some shard → motive [] shard)
    (step : ∀ calls call shard after, (table.run calls).shards[index]? = some shard →
      (table.run (calls ++ [call])).shards[index]? = some after →
      Turnover (table.run calls) index shard call ((table.run calls).call call).1 after →
      motive calls shard → motive (calls ++ [call]) after)
    (calls : List (Call κ)) (placed : (table.run calls).shards[index]? = some shard) :
    motive calls shard := by
  induction calls using List.reverseRecOn generalizing shard with
  | nil => exact start shard placed
  | append_singleton calls call ih =>
    have size := ((table.run calls).sameSetup_call call).size_eq
    have ended : table.run (calls ++ [call]) = ((table.run calls).call call).2 :=
      table.run_append calls [call]
    rw [ended] at placed
    obtain ⟨lt, _⟩ := Array.getElem?_eq_some_iff.mp placed
    rw [size] at lt
    obtain ⟨after, left, turnover⟩ := (wf.run calls).turnover call (Array.getElem?_eq_getElem lt)
    obtain rfl := Option.some.inj (left.symm.trans placed)
    exact step calls call _ after (Array.getElem?_eq_getElem lt) (ended ▸ left) turnover
      (ih (Array.getElem?_eq_getElem lt))

end Table

/-- A run on one shard in which two retired IDs wait at a time and are issued again to other
keys; one of them had more given back than it had. -/
def relay : List (Call Nat) :=
  [.lookup 7, .lookup 8, .forget ⟨2⟩ 1, .lookup 9, .forget ⟨3⟩ 4, .forget ⟨2⟩ 1, .lookup 10,
    .lookup 7]

end UserFs.Inode
