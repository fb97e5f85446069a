import UserFs.Proofs.Inode.Routing

/-!
# Runs of an inode table

A run is a list of lookups and forgets. Its history has one event for each call: a lookup
*mints* an ID that was not live before, or *returns* one that was.

* **what a call does** — `Step` has one case for each thing that can happen, in terms of the
  records that the table has before and after (`Wf.step`);
* **what a run does** — what holds of the empty history and is kept by every step holds of the
  history of every run (`Wf.run_induction`).
-/

namespace UserFs.Inode

/-- A call of an inode table. -/
inductive Call (κ : Type) where
  | lookup (key : κ)
  | forget (id : InodeId) (count : UInt64)
  deriving DecidableEq

/-- Whether a call is a lookup. -/
def Call.isLookup {κ : Type} : Call κ → Bool
  | .lookup _ => true
  | .forget _ _ => false

/-- What came of a call. -/
inductive Event (κ : Type) where
  /-- A lookup was given an ID that was not live. -/
  | minted (key : κ) (incarnation : Incarnation)
  /-- A lookup was given an ID that was live. -/
  | returned (key : κ) (incarnation : Incarnation)
  /-- A lookup found the numbers used up. -/
  | exhausted (key : κ)
  /-- Lookups of an ID were given back, and this is what was told. -/
  | forgot (id : InodeId) (count : UInt64) (outcome : ForgetOutcome)
  deriving DecidableEq

namespace Event

variable {κ : Type}

/-- The key that was looked up and the incarnation that was given for it. -/
def found? : Event κ → Option (κ × Incarnation)
  | minted key incarnation | returned key incarnation => some (key, incarnation)
  | exhausted _ | forgot _ _ _ => none

/-- Whether the event is a lookup that was given the ID. -/
def finds (id : InodeId) (event : Event κ) : Bool := event.found?.any fun found => found.2.id = id

/-- Whether the event is a mint of the ID. -/
def mints (id : InodeId) : Event κ → Bool
  | minted _ incarnation => incarnation.id = id
  | _ => false

/-- How many lookups of the ID the event gives back. -/
def givesBack (id : InodeId) : Event κ → Nat
  | forgot other count _ => if other = id then count.toNat else 0
  | _ => 0

/-- Whether the event is a lookup. -/
def isLookup : Event κ → Bool
  | forgot _ _ _ => false
  | _ => true

end Event

namespace Table

variable {κ : Type}

/-! ## What never changes -/

/-- Whether two tables are set up alike. -/
structure SameSetup (table other : Table κ) : Prop where
  rootKey_eq : other.rootKey = table.rootKey
  recycle_eq : other.recycle = table.recycle
  hash_eq : other.hash = table.hash
  size_eq : other.shards.size = table.shards.size

theorem SameSetup.refl (table : Table κ) : table.SameSetup table := ⟨rfl, rfl, rfl, rfl⟩

theorem SameSetup.trans {first second third : Table κ} (one : first.SameSetup second)
    (two : second.SameSetup third) : first.SameSetup third :=
  ⟨two.rootKey_eq.trans one.rootKey_eq, two.recycle_eq.trans one.recycle_eq,
    two.hash_eq.trans one.hash_eq, two.size_eq.trans one.size_eq⟩

theorem sameSetup_setShard (table : Table κ) (index : Fin table.shards.size) (shard : Shard κ) :
    table.SameSetup (table.setShard index shard) :=
  ⟨rfl, rfl, rfl, table.size_setShard index shard⟩

/-! ## What a call can do -/

/-- The event of a call, and what the call changes. -/
inductive Step (table : Table κ) : Call κ → Event κ → Table κ → Prop
  /-- The root is found without being counted. -/
  | root : Step table (.lookup table.rootKey) (.returned table.rootKey .root) table
  /-- A live ID gets one more lookup. -/
  | counted {key : κ} {id : InodeId} {record : Record κ} {after : Table κ}
      (live : table.record? id = some record) (same : record.key = key)
      (records : ∀ other, after.record? other =
        if other = id then some { record with lookups := record.lookups + 1 }
        else table.record? other) :
      Step table (.lookup key) (.returned key ⟨id, record.generation⟩) after
  /-- A key without a live ID gets one that was not live, with a first lookup. -/
  | minted {key : κ} {incarnation : Incarnation} {after : Table κ}
      (notRootKey : key ≠ table.rootKey)
      (absent : ∀ id record, table.record? id = some record → record.key ≠ key)
      (notRoot : incarnation.id ≠ .root) (dead : table.record? incarnation.id = none)
      (records : ∀ other, after.record? other =
        if other = incarnation.id then some ⟨key, incarnation.generation, 1⟩
        else table.record? other) :
      Step table (.lookup key) (.minted key incarnation) after
  /-- The numbers are used up. -/
  | exhausted {key : κ} : Step table (.lookup key) (.exhausted key) table
  /-- The root is not counted. -/
  | pinned {count : UInt64} : Step table (.forget .root count) (.forgot .root count .pinned) table
  /-- The ID is not live. -/
  | unknown {id : InodeId} {count : UInt64} (notRoot : id ≠ .root)
      (dead : table.record? id = none) :
      Step table (.forget id count) (.forgot id count .unknown) table
  /-- A live ID has lookups left. -/
  | remaining {id : InodeId} {count : UInt64} {record : Record κ} {after : Table κ}
      (live : table.record? id = some record) (fewer : count < record.lookups)
      (records : ∀ other, after.record? other =
        if other = id then some { record with lookups := record.lookups - count }
        else table.record? other) :
      Step table (.forget id count) (.forgot id count (.remaining (record.lookups - count))) after
  /-- A live ID has no lookup left. -/
  | retired {id : InodeId} {count : UInt64} {record : Record κ} {after : Table κ}
      (live : table.record? id = some record) (all : ¬ count < record.lookups)
      (records : ∀ other, after.record? other =
        if other = id then none else table.record? other) :
      Step table (.forget id count)
        (.forgot id count
          (if record.lookups < count then .overForgotten record.lookups count else .retired))
        after

/-- What a step does to one ID. -/
inductive Touched (id : InodeId) (table : Table κ) (call : Call κ) (event : Event κ)
    (after : Table κ) : Prop
  /-- The step is about another ID, or gives back lookups where there are none. -/
  | idle (mints : event.mints id = false) (finds : event.finds id = false)
      (same : after.record? id = table.record? id)
      (gives : event.givesBack id = 0 ∨ table.record? id = none)
  | counted {record : Record κ} (told : event = .returned record.key ⟨id, record.generation⟩)
      (live : table.record? id = some record)
      (still : after.record? id = some { record with lookups := record.lookups + 1 })
  | minted {key : κ} {generation : Generation} (asked : call = .lookup key)
      (told : event = .minted key ⟨id, generation⟩) (dead : table.record? id = none)
      (live : after.record? id = some ⟨key, generation, 1⟩)
  | remaining {count : UInt64} {outcome : ForgetOutcome} {record : Record κ}
      (told : event = .forgot id count outcome) (live : table.record? id = some record)
      (fewer : count < record.lookups)
      (still : after.record? id = some { record with lookups := record.lookups - count })
  | retired {count : UInt64} {outcome : ForgetOutcome} {record : Record κ}
      (told : event = .forgot id count outcome) (live : table.record? id = some record)
      (all : ¬ count < record.lookups) (dead : after.record? id = none)

section

variable {table after : Table κ} {call : Call κ} {event : Event κ} {id : InodeId}

/-- A step changes the record of one ID, so it is enough to ask whether that is the ID. -/
theorem Step.touched (step : Step table call event after) (notRoot : id ≠ .root) :
    Touched id table call event after := by
  have rootElse : InodeId.root ≠ id := Ne.symm notRoot
  cases step with
  | root => exact .idle rfl (decide_eq_false rootElse) rfl (.inl rfl)
  | @counted key other record _ live same records =>
    by_cases here : other = id
    · subst here same
      exact .counted rfl live (by rw [records, if_pos rfl])
    · exact .idle rfl (decide_eq_false here) (by rw [records, if_neg (Ne.symm here)]) (.inl rfl)
  | @minted key incarnation _ _ _ _ dead records =>
    by_cases here : incarnation.id = id
    · subst here
      exact .minted rfl rfl dead (by rw [records, if_pos rfl])
    · exact .idle (decide_eq_false here) (decide_eq_false here)
        (by rw [records, if_neg (Ne.symm here)]) (.inl rfl)
  | exhausted => exact .idle rfl rfl rfl (.inl rfl)
  | pinned => exact .idle rfl rfl rfl (.inl (if_neg rootElse))
  | @unknown other count _ dead =>
    by_cases here : other = id
    · exact .idle rfl rfl rfl (.inr (here ▸ dead))
    · exact .idle rfl rfl rfl (.inl (if_neg here))
  | @remaining other count record _ live fewer records =>
    by_cases here : other = id
    · subst here
      exact .remaining rfl live fewer (by rw [records, if_pos rfl])
    · exact .idle rfl rfl (by rw [records, if_neg (Ne.symm here)]) (.inl (if_neg here))
  | @retired other count record _ live all records =>
    by_cases here : other = id
    · subst here
      exact .retired rfl live all (by rw [records, if_pos rfl])
    · exact .idle rfl rfl (by rw [records, if_neg (Ne.symm here)]) (.inl (if_neg here))

/-- An ID that stays live keeps its key and its generation. -/
theorem Step.keeps {before changed : Record κ} (step : Step table call event after)
    (live : table.record? id = some before) (still : after.record? id = some changed) :
    changed.key = before.key ∧ changed.generation = before.generation := by
  cases step.touched (ne_root_of_record? live) with
  | idle _ _ same =>
    rw [same, live] at still
    cases still
    exact ⟨rfl, rfl⟩
  | counted _ there there' | remaining _ there _ there' =>
    rw [there] at live
    rw [there'] at still
    cases live
    cases still
    exact ⟨rfl, rfl⟩
  | minted _ _ dead =>
    rw [dead] at live
    cases live
  | retired _ _ _ dead =>
    rw [dead] at still
    cases still

/-- An ID comes alive only when its key is looked up. -/
theorem Step.key_of_new {record : Record κ} (step : Step table call event after)
    (dead : table.record? id = none) (live : after.record? id = some record) :
    call = .lookup record.key := by
  cases step.touched (ne_root_of_record? live) with
  | idle _ _ same =>
    rw [same, dead] at live
    cases live
  | minted asked _ _ there =>
    rw [there] at live
    cases live
    exact asked
  | counted _ there | remaining _ there | retired _ there =>
    rw [dead] at there
    cases there

/-- The key of an ID that is live after a step was live before or is looked up just then. -/
theorem Step.key_cases {record : Record κ} (step : Step table call event after)
    (live : after.record? id = some record) :
    (∃ before, table.record? id = some before ∧ before.key = record.key) ∨
      call = .lookup record.key := by
  cases known : table.record? id with
  | none => exact .inr (step.key_of_new known live)
  | some before => exact .inl ⟨before, rfl, (step.keeps known live).1.symm⟩

/-- While an ID is not live, a step leaves it alone or mints it. -/
theorem Step.of_dead (step : Step table call event after) (notRoot : id ≠ .root)
    (dead : table.record? id = none) :
    event.mints id = true ∨ event.finds id = false ∧ after.record? id = none := by
  cases step.touched notRoot with
  | idle _ finds same => exact .inr ⟨finds, same.trans dead⟩
  | minted _ told =>
    rw [told]
    exact .inl (decide_eq_true rfl)
  | counted _ there | remaining _ there | retired _ there =>
    rw [dead] at there
    cases there

end

/-! ## What is counted -/

/-- Whether so many lookups of an ID are counted; an ID without any is not live. -/
def Counts (table : Table κ) (id : InodeId) (count : Nat) : Prop :=
  match table.record? id with
  | none => count = 0
  | some record => record.lookups.toNat = count ∧ 0 < count

section

variable {table after : Table κ} {id : InodeId} {count : Nat}

theorem counts_of_none (dead : table.record? id = none) : table.Counts id count ↔ count = 0 := by
  rw [Counts, dead]

theorem counts_of_some {record : Record κ} (live : table.record? id = some record) :
    table.Counts id count ↔ record.lookups.toNat = count ∧ 0 < count := by
  rw [Counts, live]

/-- What is counted grows with each lookup, as long as it does not overflow, and shrinks by
what is given back. -/
theorem Counts.step {call : Call κ} {event : Event κ} (counts : table.Counts id count)
    (step : Step table call event after) (notRoot : id ≠ .root)
    (few : event.finds id = true → count + 1 < UInt64.size) :
    after.Counts id (count + (if event.finds id then 1 else 0) - event.givesBack id) := by
  cases step.touched notRoot with
  | idle _ finds same gives =>
    rw [finds, if_neg Bool.false_ne_true, Nat.add_zero, Counts, same]
    rcases gives with none | dead
    · rw [none]
      exact counts
    · rw [(counts_of_none dead).mp counts, Nat.zero_sub, ← Counts, counts_of_none dead]
  | @counted record told live still =>
    obtain ⟨total, _⟩ := (counts_of_some live).mp counts
    have finds : event.finds id = true := by rw [told]; exact decide_eq_true rfl
    have gives : event.givesBack id = 0 := by rw [told]; rfl
    have fits : record.lookups.toNat + 1 < UInt64.size := total ▸ few finds
    -- the one place where a count could overflow
    have added : (record.lookups + 1).toNat = record.lookups.toNat + 1 :=
      (UInt64.toNat_add _ _).trans (Nat.mod_eq_of_lt fits)
    rw [finds, gives, if_pos rfl, counts_of_some still, ← total]
    exact ⟨added, Nat.succ_pos _⟩
  | minted _ told dead live =>
    have finds : event.finds id = true := by rw [told]; exact decide_eq_true rfl
    have gives : event.givesBack id = 0 := by rw [told]; rfl
    rw [finds, gives, if_pos rfl, (counts_of_none dead).mp counts, counts_of_some live]
    exact ⟨rfl, Nat.one_pos⟩
  | @remaining given _ record told live fewer still =>
    obtain ⟨total, _⟩ := (counts_of_some live).mp counts
    have finds : event.finds id = false := by rw [told]; rfl
    have gives : event.givesBack id = given.toNat := by rw [told]; exact if_pos rfl
    have less := UInt64.lt_iff_toNat_lt.mp fewer
    rw [finds, gives, if_neg Bool.false_ne_true, counts_of_some still,
      UInt64.toNat_sub_of_le _ _ (UInt64.le_of_lt fewer)]
    omega
  | @retired given _ record told live all dead =>
    obtain ⟨total, _⟩ := (counts_of_some live).mp counts
    have finds : event.finds id = false := by rw [told]; rfl
    have gives : event.givesBack id = given.toNat := by rw [told]; exact if_pos rfl
    rw [UInt64.lt_iff_toNat_lt] at all
    rw [finds, gives, if_neg Bool.false_ne_true, counts_of_none dead]
    omega

end

/-! ## Calls -/

variable [DecidableEq κ]

/-- Makes a call. -/
def call (table : Table κ) : Call κ → Event κ × Table κ
  | .lookup key =>
    let (found, after) := table.lookup key
    (match found with
      | none => .exhausted key
      | some incarnation =>
        if table.isValid incarnation.id then .returned key incarnation
        else .minted key incarnation, after)
  | .forget id count =>
    let (outcome, after) := table.forget id count
    (.forgot id count outcome, after)

/-- The table after calls made in order. -/
def run : Table κ → List (Call κ) → Table κ
  | table, [] => table
  | table, call :: rest => (table.call call).2.run rest

/-- What came of calls made in order. -/
def history : Table κ → List (Call κ) → List (Event κ)
  | _, [] => []
  | table, call :: rest => (table.call call).1 :: (table.call call).2.history rest

theorem run_append (table : Table κ) (first second : List (Call κ)) :
    table.run (first ++ second) = (table.run first).run second := by
  induction first generalizing table with
  | nil => rfl
  | cons call rest ih => exact ih (table.call call).2

theorem history_append (table : Table κ) (first second : List (Call κ)) :
    table.history (first ++ second) =
      table.history first ++ (table.run first).history second := by
  induction first generalizing table with
  | nil => rfl
  | cons call rest ih => exact congrArg _ (ih (table.call call).2)

theorem call_forget (table : Table κ) (id : InodeId) (count : UInt64) :
    table.call (.forget id count) =
      (.forgot id count (table.forget id count).1, (table.forget id count).2) := rfl

theorem found?_call_lookup (table : Table κ) (key : κ) :
    (table.call (.lookup key)).1.found? = (table.lookup key).1.map fun found => (key, found) := by
  cases looked : table.lookup key with
  | mk found after =>
    simp only [call, looked]
    cases found with
    | none => rfl
    | some incarnation =>
      dsimp only
      split <;> rfl

theorem givesBack_call_lookup (table : Table κ) (key : κ) (id : InodeId) :
    (table.call (.lookup key)).1.givesBack id = 0 := by
  simp only [call]
  split
  · rfl
  · split <;> rfl

theorem isLookup_call (table : Table κ) (call : Call κ) :
    (table.call call).1.isLookup = call.isLookup := by
  cases call with
  | lookup key =>
    simp only [Table.call]
    split
    · rfl
    · split <;> rfl
  | forget id count => rfl

theorem countP_isLookup_history (table : Table κ) (calls : List (Call κ)) :
    (table.history calls).countP Event.isLookup = calls.countP Call.isLookup := by
  induction calls generalizing table with
  | nil => rfl
  | cons call rest ih => rw [history, List.countP_cons, List.countP_cons, ih, isLookup_call]

/-! ## What a call does -/

theorem call_lookup_of_live {table after : Table κ} {key : κ} {incarnation : Incarnation}
    (looked : table.lookup key = (some incarnation, after))
    (live : table.isValid incarnation.id = true) :
    table.call (.lookup key) = (.returned key incarnation, after) := by
  simp only [call, looked, live, if_true]

theorem call_lookup_of_dead {table after : Table κ} {key : κ} {incarnation : Incarnation}
    (looked : table.lookup key = (some incarnation, after)) (notRoot : incarnation.id ≠ .root)
    (dead : table.record? incarnation.id = none) :
    table.call (.lookup key) = (.minted key incarnation, after) := by
  have invalid : table.isValid incarnation.id = false := by
    rw [isValid_of_ne_root notRoot, dead, Option.isSome_none]
  simp only [call, looked, invalid, Bool.false_eq_true, if_false]

/-- A key that its shard does not know is live nowhere in the table. -/
theorem Wf.absent_of_ids {table : Table κ} (wf : table.Wf) {key : κ}
    (absent : (table.shardAt (table.shardOfKey key)).ids.get? key = none) (id : InodeId)
    (record : Record κ) (live : table.record? id = some record) : record.key ≠ key := by
  intro same
  have there := (wf.get?_of_record? live same).2
  rw [((wf.at _).linked.ids_iff key id).mpr ⟨record, there, same⟩] at absent
  cases absent

/-- A lookup that is given an ID that was not live in its shard mints it. -/
theorem call_lookup_of_issue {table after : Table κ} {key : κ} {incarnation : Incarnation}
    (looked : table.lookup key = (some incarnation, after)) {index : Fin table.shards.size}
    (owns : (table.slotAt index).Owns incarnation.id)
    (dead : ¬ (table.shardAt index).Live incarnation.id) :
    table.record? incarnation.id = none ∧
      table.call (.lookup key) = (.minted key incarnation, after) := by
  have noRecord : table.record? incarnation.id = none := by
    rw [record?_of_owns (getElem?_fin table index) owns, Shard.not_live_iff.mp dead]
  exact ⟨noRecord, call_lookup_of_dead looked owns.ne_root noRecord⟩

/-- The step of a lookup that makes an ID of the key's shard live. -/
theorem Wf.step_of_issue {table : Table κ} (wf : table.Wf) {key : κ} {shard : Shard κ}
    {incarnation : Incarnation} (notRoot : key ≠ table.rootKey)
    (result : table.lookup key = (some incarnation,
      table.setShard (table.shardOfKey key) (shard.issue key incarnation)))
    (records : shard.records = (table.shardAt (table.shardOfKey key)).records)
    (absent : (table.shardAt (table.shardOfKey key)).ids.get? key = none)
    (owns : (table.slotAt (table.shardOfKey key)).Owns incarnation.id)
    (dead : ¬ (table.shardAt (table.shardOfKey key)).Live incarnation.id) :
    Step table (.lookup key) (table.call (.lookup key)).1 (table.call (.lookup key)).2 := by
  obtain ⟨noRecord, called⟩ := call_lookup_of_issue result owns dead
  rw [called]
  refine .minted notRoot (wf.absent_of_ids absent) owns.ne_root noRecord
    (record?_setShard _ owns fun other => ?_)
  rw [Shard.get?_records_issue, records]

theorem Wf.step_of_looked {table : Table κ} (wf : table.Wf) {key : κ}
    (notRoot : key ≠ table.rootKey) {found : Option Incarnation} {shard : Shard κ}
    (looked : Shard.Looked (table.slotAt (table.shardOfKey key))
      (table.shardAt (table.shardOfKey key)) key found shard)
    (result : table.lookup key = (found, table.setShard (table.shardOfKey key) shard)) :
    Step table (.lookup key) (table.call (.lookup key)).1 (table.call (.lookup key)).2 := by
  have numbered := (wf.at (table.shardOfKey key)).numbered
  cases looked with
  | counted live same =>
    have tableLive := wf.record?_of_get? (getElem?_fin table _) live
    have owns := (numbered.issued_live _ (.of_get? live)).owns
    rw [call_lookup_of_live result (isValid_of_record? tableLive)]
    exact .counted tableLive same (record?_setShard _ owns (Shard.get?_records_addLookup _ live))
  | @reissued retired waiting absent recycles free =>
    rw [free] at numbered
    exact wf.step_of_issue notRoot result rfl absent
      (numbered.issued_free retired List.mem_cons_self).owns
      (numbered.not_live_free retired List.mem_cons_self)
  | numbered absent noneWaits number =>
    have inRange : (table.slotAt (table.shardOfKey key)).index < table.shards.size :=
      (table.shardOfKey key).isLt
    exact wf.step_of_issue notRoot result rfl absent
      ((Slot.number?_eq_some_iff inRange).mp number).1
      fun live => Slot.not_issued_of_number? inRange number (numbered.issued_live _ live)
  | exhausted =>
    rw [setShard_self] at result
    simp only [call, result]
    exact .exhausted

theorem Wf.step_lookup {table : Table κ} (wf : table.Wf) (key : κ) :
    Step table (.lookup key) (table.call (.lookup key)).1 (table.call (.lookup key)).2 := by
  by_cases isRoot : key = table.rootKey
  · subst isRoot
    rw [call_lookup_of_live table.lookup_rootKey rfl]
    exact .root
  · exact wf.step_of_looked isRoot (wf.looked key) (lookup_of_ne_rootKey table isRoot)

theorem step_of_forgot {table : Table κ} {id : InodeId} {count : UInt64}
    {index : Fin table.shards.size} (owns : (table.slotAt index).Owns id)
    {outcome : ForgetOutcome} {shard : Shard κ}
    (forgot : Shard.Forgot (table.slotAt index) (table.shardAt index) id count outcome shard) :
    Step table (.forget id count) (.forgot id count outcome) (table.setShard index shard) := by
  have here := record?_of_owns (getElem?_fin table index) owns
  cases forgot with
  | unknown dead =>
    rw [setShard_self]
    exact .unknown owns.ne_root (here.trans dead)
  | remaining live fewer =>
    exact .remaining (here.trans live) fewer
      (record?_setShard index owns (Shard.get?_records_dropLookups _ live count))
  | retired live all =>
    exact .retired (here.trans live) all
      (record?_setShard index owns (Shard.get?_records_retire _ _ id _))

theorem step_forget (table : Table κ) (id : InodeId) (count : UInt64) :
    Step table (.forget id count) (table.call (.forget id count)).1
      (table.call (.forget id count)).2 := by
  rw [call_forget]
  by_cases isRoot : id = .root
  · subst isRoot
    exact .pinned
  · cases routed : table.shardOfId? id with
    | none =>
      have small := shardOfId?_eq_none_iff.mp routed
      rw [forget_of_small table isRoot small]
      exact .unknown isRoot (record?_eq_none_of_small small)
    | some index =>
      have owns := shardOfId?_eq_some_iff.mp routed
      rw [forget_of_owns table index owns]
      exact step_of_forgot owns (Shard.forgot_forget _ _ id count)

theorem forget_of_dead (table : Table κ) {id : InodeId} (notRoot : id ≠ .root)
    (dead : table.record? id = none) (count : UInt64) :
    (table.forget id count).1 = .unknown := by
  have step := table.step_forget id count
  rw [call_forget] at step
  -- the step is about the call as a whole, so its parts are named before it is taken apart
  generalize (table.forget id count).1 = outcome, (table.forget id count).2 = after at step
  cases step with
  | pinned => exact absurd rfl notRoot
  | unknown => rfl
  | remaining live =>
    rw [dead] at live
    cases live
  | retired live =>
    rw [dead] at live
    cases live

theorem Wf.step {table : Table κ} (wf : table.Wf) (call : Call κ) :
    Step table call (table.call call).1 (table.call call).2 := by
  cases call with
  | lookup key => exact wf.step_lookup key
  | forget id count => exact table.step_forget id count

/-- What a lookup was given is valid afterwards, for its key and with its generation. -/
theorem Wf.resolve?_of_lookup {table : Table κ} (wf : table.Wf) {key : κ}
    {incarnation : Incarnation} (found : (table.lookup key).1 = some incarnation) :
    (table.lookup key).2.resolve? incarnation.id = some key ∧
      (table.lookup key).2.generation? incarnation.id = some incarnation.generation := by
  have told := table.found?_call_lookup key
  have step := wf.step_lookup key
  have left : (table.call (.lookup key)).2 = (table.lookup key).2 := rfl
  rw [found, Option.map_some] at told
  rw [left] at step
  generalize (table.call (.lookup key)).1 = event, (table.lookup key).2 = after at told step ⊢
  cases step with
  | root =>
    cases told
    exact ⟨rfl, rfl⟩
  | counted live same records =>
    cases told
    have notRoot := ne_root_of_record? live
    rw [resolve?_of_ne_root notRoot, generation?_of_ne_root notRoot, records, if_pos rfl]
    exact ⟨congrArg some same, rfl⟩
  | minted _ _ notRoot _ records =>
    cases told
    rw [resolve?_of_ne_root notRoot, generation?_of_ne_root notRoot, records, if_pos rfl]
    exact ⟨rfl, rfl⟩
  | exhausted => cases told

theorem Wf.call {table : Table κ} (wf : table.Wf) (call : Call κ) : (table.call call).2.Wf := by
  cases call with
  | lookup key => exact wf_lookup wf key
  | forget id count => exact wf_forget wf id count

/-! ## What a run does -/

theorem sameSetup_call (table : Table κ) (call : Call κ) :
    table.SameSetup (table.call call).2 := by
  cases call with
  | lookup key =>
    show table.SameSetup (table.lookup key).2
    by_cases isRoot : key = table.rootKey
    · rw [isRoot, lookup_rootKey]
      exact .refl table
    · rw [lookup_of_ne_rootKey table isRoot]
      exact sameSetup_setShard table _ _
  | forget id count =>
    show table.SameSetup (table.forget id count).2
    by_cases isRoot : id = .root
    · rw [isRoot, forget_root]
      exact .refl table
    · cases routed : table.shardOfId? id with
      | none =>
        rw [forget_of_small table isRoot (shardOfId?_eq_none_iff.mp routed)]
        exact .refl table
      | some index =>
        rw [forget_of_owns table index (shardOfId?_eq_some_iff.mp routed)]
        exact sameSetup_setShard table _ _

theorem sameSetup_run (table : Table κ) (calls : List (Call κ)) :
    table.SameSetup (table.run calls) := by
  induction calls generalizing table with
  | nil => exact .refl table
  | cons call rest ih => exact (table.sameSetup_call call).trans (ih _)

/-- What holds of the history so far and the table that it left, and is kept by every call,
holds after every run. -/
theorem Wf.run_induction {motive : List (Event κ) → Table κ → Prop} {table : Table κ}
    (wf : table.Wf) (start : motive [] table)
    (step : ∀ (past : List (Event κ)) (now : Table κ) (call : Call κ), now.Wf →
      motive past now → motive (past ++ [(now.call call).1]) (now.call call).2)
    (calls : List (Call κ)) : motive (table.history calls) (table.run calls) := by
  -- the induction is on the calls still to be made, for any past
  have fromPast : ∀ (calls : List (Call κ)) (past : List (Event κ)) (now : Table κ), now.Wf →
      motive past now → motive (past ++ now.history calls) (now.run calls) := by
    intro calls
    induction calls with
    | nil =>
      intro past now _ holds
      rwa [history, List.append_nil]
    | cons call rest ih =>
      intro past now nowWf holds
      have next := ih _ _ (nowWf.call call) (step past now call nowWf holds)
      rwa [List.append_assoc] at next
  exact fromPast calls [] table wf start

theorem Wf.run {table : Table κ} (wf : table.Wf) (calls : List (Call κ)) :
    (table.run calls).Wf := by
  induction calls generalizing table with
  | nil => exact wf
  | cons call rest ih => exact ih (wf.call call)

end Table

/-- A run on one shard in which two keys take turns with the ID 2: the first one loses it when
more is given back than it had. -/
def turns : List (Call Nat) :=
  [.lookup 7, .lookup 7, .forget ⟨2⟩ 1, .forget ⟨2⟩ 5, .lookup 8, .forget ⟨2⟩ 0, .lookup 8]

end UserFs.Inode
