import Mathlib.Data.Finset.Card
import UserFs.Proofs.Inode.Operation
import UserFs.Proofs.Inode.Representation

/-!
# How a table is set up does not show

A client that names inodes by their keys sees which keys are live and how many lookups of each
are counted, and nothing of IDs, generations, shards and hashes. `Tally` is what it sees and
`Tally.step` how that changes; every table shows what its tally says (`Table.Wf.keyStep_eq`),
as long as it has numbers to issue. Two tables that are set up differently therefore show the
same of the same steps (`setup_invisible`): no relation between the IDs of the two is needed
but that both stand for the live keys.
-/

namespace UserFs.Inode

/-- A step of a client that names inodes by their keys. -/
inductive KeyStep (κ : Type) where
  | lookup (key : κ)
  /-- Gives back lookups of the ID that the key has. -/
  | forget (key : κ) (count : UInt64)
  deriving DecidableEq

/-- What such a client is told. -/
inductive KeyAnswer where
  /-- The key has an ID now. -/
  | found
  /-- The numbers are used up. -/
  | exhausted
  /-- The key has no ID of which lookups could be given back. -/
  | skipped
  | forgot (outcome : ForgetOutcome)
  deriving DecidableEq

/-- The keys that are live besides the root's, with the lookups that are counted of each. -/
@[ext] structure Tally (κ : Type) where
  rootKey : κ
  lookups? : κ → Option UInt64

variable {κ : Type} [DecidableEq κ]

namespace Tally

/-- Counts so many lookups of a key, or none any more. -/
def set (tally : Tally κ) (key : κ) (lookups? : Option UInt64) : Tally κ :=
  { tally with lookups? := fun other => if other = key then lookups? else tally.lookups? other }

/-- What a step is told, and what is counted after it. -/
def step (tally : Tally κ) : KeyStep κ → KeyAnswer × Tally κ
  | .lookup key =>
    if key = tally.rootKey then (.found, tally)
    else (.found, tally.set key (some ((tally.lookups? key).getD 0 + 1)))
  | .forget key count =>
    if key = tally.rootKey then (.forgot .pinned, tally)
    else
      match tally.lookups? key with
      | none => (.skipped, tally)
      | some lookups =>
        if count < lookups then
          (.forgot (.remaining (lookups - count)), tally.set key (some (lookups - count)))
        else
          (.forgot (if lookups < count then .overForgotten lookups count else .retired),
            tally.set key none)

end Tally

namespace Table

/-- The ID that a key has. -/
def idOf? (table : Table κ) (key : κ) : Option InodeId :=
  if key = table.rootKey then some .root
  else (table.shardAt (table.shardOfKey key)).ids.get? key

/-- Makes a step. -/
def keyStep (table : Table κ) : KeyStep κ → KeyAnswer × Table κ
  | .lookup key =>
    (if (table.lookup key).1.isSome then .found else .exhausted, (table.lookup key).2)
  | .forget key count =>
    match table.idOf? key with
    | none => (.skipped, table)
    | some id => (.forgot (table.forget id count).1, (table.forget id count).2)

/-- What a client that names inodes by their keys sees of a table. -/
def tally (table : Table κ) : Tally κ where
  rootKey := table.rootKey
  lookups? key := (table.idOf? key).bind table.lookupCount?

/-! ## IDs and keys -/

section

variable {table : Table κ} {key : κ} {id : InodeId}

theorem idOf?_rootKey (table : Table κ) : table.idOf? table.rootKey = some .root := if_pos rfl

theorem Wf.idOf?_eq_some_iff_record? (wf : table.Wf) (notRoot : key ≠ table.rootKey) :
    table.idOf? key = some id ↔ ∃ record, table.record? id = some record ∧ record.key = key := by
  rw [idOf?, if_neg notRoot, (wf.at _).linked.ids_iff]
  constructor
  · rintro ⟨record, live, same⟩
    exact ⟨record, wf.record?_of_get? (getElem?_fin table _) live, same⟩
  · rintro ⟨record, live, same⟩
    exact ⟨record, (wf.get?_of_record? live same).2, same⟩

/-- The ID that a key has is the one that stands for it. -/
theorem Wf.idOf?_eq_some_iff (wf : table.Wf) :
    table.idOf? key = some id ↔ table.resolve? id = some key := by
  by_cases isRoot : key = table.rootKey
  · subst isRoot
    rw [idOf?_rootKey, Option.some.injEq]
    constructor
    · rintro rfl
      exact table.resolve?_root
    · intro resolved
      exact wf.resolve?_injective table.resolve?_root resolved
  · rw [wf.idOf?_eq_some_iff_record? isRoot]
    constructor
    · rintro ⟨record, live, rfl⟩
      rw [resolve?_of_ne_root (ne_root_of_record? live), live, Option.map_some]
    · intro resolved
      have notRoot : id ≠ .root := by
        rintro rfl
        exact isRoot (Option.some.inj (resolved.symm.trans table.resolve?_root))
      rw [resolve?_of_ne_root notRoot] at resolved
      exact Option.map_eq_some_iff.mp resolved

theorem lookups?_tally (table : Table κ) (key : κ) :
    table.tally.lookups? key = (table.idOf? key).bind table.lookupCount? := rfl

theorem lookups?_tally_rootKey (table : Table κ) :
    table.tally.lookups? table.rootKey = none := by
  rw [lookups?_tally, idOf?_rootKey, Option.bind_some, lookupCount?, record?_root, Option.map_none]

theorem Wf.lookups?_tally_eq_some_iff (wf : table.Wf) {lookups : UInt64} :
    table.tally.lookups? key = some lookups ↔
      ∃ id record, table.record? id = some record ∧ record.key = key ∧
        record.lookups = lookups := by
  by_cases isRoot : key = table.rootKey
  · subst isRoot
    rw [lookups?_tally_rootKey]
    constructor
    · nofun
    · rintro ⟨id, record, live, same, _⟩
      exact absurd rfl (wf.get?_of_record? live same).1
  · rw [lookups?_tally, Option.bind_eq_some_iff]
    constructor
    · rintro ⟨id, known, counted⟩
      obtain ⟨record, live, same⟩ := (wf.idOf?_eq_some_iff_record? isRoot).mp known
      rw [lookupCount?, live, Option.map_some] at counted
      exact ⟨id, record, live, same, Option.some.inj counted⟩
    · rintro ⟨id, record, live, same, rfl⟩
      refine ⟨id, (wf.idOf?_eq_some_iff_record? isRoot).mpr ⟨record, live, same⟩, ?_⟩
      rw [lookupCount?, live, Option.map_some]

/-- What is counted of the ID that stands for a key is what the tally has of the key. -/
theorem Wf.lookupCount?_eq (wf : table.Wf) (resolved : table.resolve? id = some key) :
    table.lookupCount? id = table.tally.lookups? key := by
  rw [lookups?_tally, wf.idOf?_eq_some_iff.mpr resolved, Option.bind_some]

/-- The keys for which an ID stands are those that the tally has, and the root's. -/
theorem Wf.exists_resolve?_iff (wf : table.Wf) :
    (∃ id, table.resolve? id = some key) ↔
      key = table.tally.rootKey ∨ (table.tally.lookups? key).isSome := by
  by_cases isRoot : key = table.rootKey
  · subst isRoot
    exact ⟨fun _ => .inl rfl, fun _ => ⟨.root, table.resolve?_root⟩⟩
  · have notTallyRoot : ¬ key = table.tally.rootKey := isRoot
    rw [or_iff_right notTallyRoot, Option.isSome_iff_exists]
    simp only [wf.lookups?_tally_eq_some_iff, ← wf.idOf?_eq_some_iff,
      wf.idOf?_eq_some_iff_record? isRoot]
    constructor
    · rintro ⟨id, record, live, same⟩
      exact ⟨record.lookups, id, record, live, same, rfl⟩
    · rintro ⟨_, id, record, live, same, _⟩
      exact ⟨id, record, live, same⟩

end

/-! ## What a step shows -/

section

variable {table after : Table κ} {key : κ} {id : InodeId}

/-- Where one record changes, and it is the one of a key, the tally changes for that key. -/
theorem Wf.tally_of_records (wf : table.Wf) (afterWf : after.Wf) (setup : table.SameSetup after)
    {value : Option (Record κ)}
    (mine : ∀ other record, table.record? other = some record → (record.key = key ↔ other = id))
    (keyed : ∀ record, value = some record → record.key = key)
    (records : ∀ other, after.record? other = if other = id then value else table.record? other) :
    after.tally = table.tally.set key (value.map (·.lookups)) := by
  refine Tally.ext setup.rootKey_eq (funext fun asked => Option.ext fun lookups => ?_)
  rw [afterWf.lookups?_tally_eq_some_iff]
  show _ ↔ (if asked = key then _ else table.tally.lookups? asked) = some lookups
  by_cases here : asked = key
  · rw [if_pos here, Option.map_eq_some_iff]
    constructor
    · rintro ⟨other, record, live, same, counted⟩
      rw [records] at live
      split at live
      · exact ⟨record, live, counted⟩
      · next elsewhere => exact absurd ((mine other record live).mp (same.trans here)) elsewhere
    · rintro ⟨record, written, counted⟩
      refine ⟨id, record, ?_, (keyed record written).trans here.symm, counted⟩
      rw [records, if_pos rfl, written]
  · rw [if_neg here, wf.lookups?_tally_eq_some_iff]
    constructor
    · rintro ⟨other, record, live, same, counted⟩
      rw [records] at live
      split at live
      · exact absurd (same.symm.trans (keyed record live)) here
      · exact ⟨other, record, live, same, counted⟩
    · rintro ⟨other, record, live, same, counted⟩
      have elsewhere : other ≠ id := fun isId =>
        here (same.symm.trans ((mine other record live).mpr isId))
      refine ⟨other, record, ?_, same, counted⟩
      rw [records, if_neg elsewhere, live]

/-- The record of a live ID is the only one of its key. -/
theorem Wf.key_eq_iff (wf : table.Wf) {record : Record κ} (live : table.record? id = some record)
    (other : InodeId) (held : Record κ) (there : table.record? other = some held) :
    held.key = record.key ↔ other = id := by
  constructor
  · intro same
    exact wf.id_unique there live same
  · rintro rfl
    rw [Option.some.inj (there.symm.trans live)]

theorem Wf.lookups?_tally_of_absent (wf : table.Wf)
    (absent : ∀ id record, table.record? id = some record → record.key ≠ key) :
    table.tally.lookups? key = none := by
  rw [Option.eq_none_iff_forall_ne_some]
  intro lookups counted
  obtain ⟨id, record, live, same, _⟩ := wf.lookups?_tally_eq_some_iff.mp counted
  exact absent id record live same

/-- A lookup that was given an ID is counted. -/
theorem Wf.tally_of_lookup (wf : table.Wf) (afterWf : after.Wf) (setup : table.SameSetup after)
    {event : Event κ} (step : Step table (.lookup key) event after)
    (notRoot : key ≠ table.rootKey) (given : event.found?.isSome) :
    after.tally = table.tally.set key (some ((table.tally.lookups? key).getD 0 + 1)) := by
  cases step with
  | root => exact absurd rfl notRoot
  | @counted _ id record _ live same records =>
    subst same
    have before := wf.lookups?_tally_eq_some_iff.mpr ⟨id, record, live, rfl, rfl⟩
    rw [before, wf.tally_of_records afterWf setup (wf.key_eq_iff live)
      (fun _ written => by rw [← Option.some.inj written]) records]
    rfl
  | @minted _ incarnation _ _ absent _ dead records =>
    -- the key was in no record, and the ID had none
    have mine : ∀ other record, table.record? other = some record →
        (record.key = key ↔ other = incarnation.id) := by
      intro other record live
      refine ⟨fun same => absurd same (absent other record live), ?_⟩
      rintro rfl
      rw [dead] at live
      cases live
    rw [wf.lookups?_tally_of_absent absent, wf.tally_of_records afterWf setup mine
      (fun _ written => by rw [← Option.some.inj written]) records]
    rfl
  | exhausted => cases given

theorem Wf.keyStep_lookup (wf : table.Wf) (key : κ)
    (enough : (table.keyStep (.lookup key)).1 ≠ .exhausted) :
    (table.keyStep (.lookup key)).1 = (table.tally.step (.lookup key)).1 ∧
      (table.keyStep (.lookup key)).2.tally = (table.tally.step (.lookup key)).2 := by
  by_cases isRoot : key = table.rootKey
  · subst isRoot
    have same : table.tally.step (.lookup table.rootKey) = (.found, table.tally) := if_pos rfl
    rw [same, keyStep, lookup_rootKey]
    exact ⟨rfl, rfl⟩
  · have stepped : table.tally.step (.lookup key) =
        (.found, table.tally.set key (some ((table.tally.lookups? key).getD 0 + 1))) :=
      if_neg isRoot
    have given : (table.lookup key).1.isSome = true := by
      rw [← Bool.not_eq_false]
      intro none
      exact enough (if_neg (by rw [none]; exact Bool.false_ne_true))
    have found : (table.call (.lookup key)).1.found?.isSome = true := by
      rw [found?_call_lookup, Option.isSome_map, given]
    rw [stepped]
    exact ⟨if_pos given, wf.tally_of_lookup (wf_lookup wf key)
      (table.sameSetup_call (.lookup key)) (wf.step_lookup key) isRoot found⟩

theorem Wf.keyStep_forget (wf : table.Wf) (key : κ) (count : UInt64) :
    (table.keyStep (.forget key count)).1 = (table.tally.step (.forget key count)).1 ∧
      (table.keyStep (.forget key count)).2.tally =
        (table.tally.step (.forget key count)).2 := by
  by_cases isRoot : key = table.rootKey
  · subst isRoot
    have same : table.tally.step (.forget table.rootKey count) = (.forgot .pinned, table.tally) :=
      if_pos rfl
    rw [same, keyStep, idOf?_rootKey]
    exact ⟨rfl, rfl⟩
  have notTallyRoot : key ≠ table.tally.rootKey := isRoot
  cases known : table.idOf? key with
  | none =>
    have before : table.tally.lookups? key = none := by
      rw [lookups?_tally, known, Option.bind_none]
    rw [Tally.step, if_neg notTallyRoot, before, keyStep, known]
    exact ⟨rfl, rfl⟩
  | some id =>
    obtain ⟨record, live, rfl⟩ := (wf.idOf?_eq_some_iff_record? isRoot).mp known
    have before := wf.lookups?_tally_eq_some_iff.mpr ⟨id, record, live, rfl, rfl⟩
    have step := table.step_forget id count
    have afterWf := wf_forget wf id count
    have setup := table.sameSetup_call (.forget id count)
    rw [call_forget] at step setup
    rw [Tally.step, if_neg notTallyRoot, before, keyStep, known]
    dsimp only at step setup ⊢
    generalize (table.forget id count).1 = outcome, (table.forget id count).2 = after
      at step afterWf setup ⊢
    cases step with
    | pinned => exact absurd rfl (ne_root_of_record? live)
    | unknown _ dead =>
      rw [dead] at live
      cases live
    | remaining there fewer records =>
      obtain rfl := Option.some.inj (live.symm.trans there)
      rw [if_pos fewer, wf.tally_of_records afterWf setup (wf.key_eq_iff live)
        (fun _ written => by rw [← Option.some.inj written]) records]
      exact ⟨rfl, rfl⟩
    | retired there all records =>
      obtain rfl := Option.some.inj (live.symm.trans there)
      rw [if_neg all, wf.tally_of_records afterWf setup (wf.key_eq_iff live)
        (fun held no => absurd no (Option.some_ne_none held).symm) records]
      exact ⟨rfl, rfl⟩

/-- A step shows what the tally says, unless the numbers are used up. -/
theorem Wf.keyStep_eq (wf : table.Wf) (step : KeyStep κ)
    (enough : (table.keyStep step).1 ≠ .exhausted) :
    (table.keyStep step).1 = (table.tally.step step).1 ∧
      (table.keyStep step).2.tally = (table.tally.step step).2 := by
  cases step with
  | lookup key => exact wf.keyStep_lookup key enough
  | forget key count => exact wf.keyStep_forget key count

theorem Wf.keyStep (wf : table.Wf) (step : KeyStep κ) : (table.keyStep step).2.Wf := by
  cases step with
  | lookup key => exact wf_lookup wf key
  | forget key count =>
    rw [Table.keyStep]
    split
    · exact wf
    · exact wf_forget wf _ count

end

/-! ## What a run shows -/

theorem tally_fresh (rootKey : κ) (config : TableConfig) (hash : κ → UInt64) :
    (fresh rootKey config hash).tally = ⟨rootKey, fun _ => none⟩ := by
  refine Tally.ext rfl (funext fun key => ?_)
  refine (wf_fresh rootKey config hash).lookups?_tally_of_absent fun id record live => ?_
  rw [record?_fresh] at live
  cases live

/-- A run shows what the tally says, unless the numbers are used up. -/
theorem Wf.transcript_keyStep {table : Table κ} (wf : table.Wf) {steps : List (KeyStep κ)}
    (enough : ∀ exchange ∈ transcript Table.keyStep table steps, exchange.2 ≠ .exhausted) :
    transcript Table.keyStep table steps = transcript Tally.step table.tally steps ∧
      (performAll Table.keyStep table steps).tally = performAll Tally.step table.tally steps ∧
      (performAll Table.keyStep table steps).Wf := by
  induction steps generalizing table with
  | nil => exact ⟨rfl, rfl, wf⟩
  | cons step rest ih =>
    rw [transcript, List.forall_mem_cons] at enough
    obtain ⟨answered, left⟩ := wf.keyStep_eq step enough.1
    obtain ⟨shown, counted, kept⟩ := ih (wf.keyStep step) enough.2
    rw [left] at shown counted
    rw [transcript, transcript, answered, shown]
    exact ⟨rfl, counted, kept⟩

/-! ## Two tables with one tally -/

section

variable {one two : Table κ}

/-- In tables with one tally, each valid ID of the one has its match in the other. -/
theorem Wf.existsUnique_of_tally (wf : one.Wf) (otherWf : two.Wf) (same : one.tally = two.tally)
    {id : InodeId} (valid : one.isValid id = true) :
    ∃! other, two.resolve? other = one.resolve? id := by
  obtain ⟨key, resolved⟩ := exists_resolve?_of_isValid valid
  have live := wf.exists_resolve?_iff.mp ⟨id, resolved⟩
  rw [same, ← otherWf.exists_resolve?_iff] at live
  obtain ⟨other, found⟩ := live
  rw [resolved]
  exact ⟨other, found, fun another there => otherWf.resolve?_injective there found⟩

/-- A table has no more live IDs than another one with its tally. -/
theorem Wf.liveCount_le_of_tally (wf : one.Wf) (otherWf : two.Wf) (same : one.tally = two.tally) :
    one.liveCount ≤ two.liveCount := by
  obtain ⟨ids, members, card⟩ := wf.exists_validIds
  obtain ⟨others, otherMembers, otherCard⟩ := otherWf.exists_validIds
  -- the IDs are as many as the keys they stand for, and these the other table has as well
  have injective : Set.InjOn one.resolve? ids := by
    intro id member another _ equal
    obtain ⟨key, resolved⟩ := exists_resolve?_of_isValid ((members id).mp member).1
    exact wf.resolve?_injective resolved (equal ▸ resolved)
  have within : ids.image one.resolve? ⊆ others.image two.resolve? := by
    intro found member
    obtain ⟨id, isMember, rfl⟩ := Finset.mem_image.mp member
    obtain ⟨valid, notRoot⟩ := (members id).mp isMember
    obtain ⟨other, matched, _⟩ := wf.existsUnique_of_tally otherWf same valid
    have otherValid : two.isValid other = true := by
      rw [isValid_eq_isSome_resolve?, matched, ← isValid_eq_isSome_resolve?, valid]
    refine Finset.mem_image.mpr ⟨other, (otherMembers other).mpr ⟨otherValid, ?_⟩, matched⟩
    rintro rfl
    have rootKey : two.rootKey = one.rootKey := congrArg Tally.rootKey same.symm
    rw [resolve?_root, rootKey] at matched
    exact notRoot (wf.resolve?_injective matched.symm one.resolve?_root)
  calc one.liveCount
    _ = (ids.image one.resolve?).card := by rw [Finset.card_image_of_injOn injective, card]
    _ ≤ (others.image two.resolve?).card := Finset.card_le_card within
    _ ≤ others.card := Finset.card_image_le
    _ = two.liveCount := otherCard

end

end Table

/-- **How a table is set up does not show.** Two fresh tables with one root key, whatever their
numbers of shards, their hashes and whether they issue IDs again, tell the same of the same
steps, as long as neither has used up its numbers. At every point the same keys are live, the
same number of lookups of each is counted, as many IDs are live, and the IDs of the one match
those of the other, one to one, by the keys they stand for. -/
theorem setup_invisible (rootKey : κ) (first second : TableConfig)
    (firstHash secondHash : κ → UInt64) (steps : List (KeyStep κ))
    (firstEnough : ∀ exchange ∈
      transcript Table.keyStep (Table.fresh rootKey first firstHash) steps,
      exchange.2 ≠ .exhausted)
    (secondEnough : ∀ exchange ∈
      transcript Table.keyStep (Table.fresh rootKey second secondHash) steps,
      exchange.2 ≠ .exhausted) :
    transcript Table.keyStep (Table.fresh rootKey first firstHash) steps =
      transcript Table.keyStep (Table.fresh rootKey second secondHash) steps ∧
    ∀ early, early <+: steps →
      let one := performAll Table.keyStep (Table.fresh rootKey first firstHash) early
      let two := performAll Table.keyStep (Table.fresh rootKey second secondHash) early
      (∀ key, (∃ id, one.resolve? id = some key) ↔ ∃ id, two.resolve? id = some key) ∧
      (∀ key id other, one.resolve? id = some key → two.resolve? other = some key →
        one.lookupCount? id = two.lookupCount? other) ∧
      one.liveCount = two.liveCount ∧
      (∀ id, one.isValid id = true → ∃! other, two.resolve? other = one.resolve? id) ∧
      ∀ other, two.isValid other = true → ∃! id, one.resolve? id = two.resolve? other := by
  have wf := Table.wf_fresh rootKey first firstHash
  have otherWf := Table.wf_fresh rootKey second secondHash
  have start := Table.tally_fresh rootKey first firstHash
  have otherStart := Table.tally_fresh rootKey second secondHash
  constructor
  · rw [(wf.transcript_keyStep firstEnough).1, (otherWf.transcript_keyStep secondEnough).1, start,
      otherStart]
  · rintro early ⟨late, rfl⟩ one two
    rw [transcript_append, List.forall_mem_append] at firstEnough secondEnough
    obtain ⟨_, counted, oneWf⟩ := wf.transcript_keyStep firstEnough.1
    obtain ⟨_, otherCounted, twoWf⟩ := otherWf.transcript_keyStep secondEnough.1
    have same : one.tally = two.tally := by
      rw [counted, otherCounted, start, otherStart]
    refine ⟨fun key => ?_, ?_, Nat.le_antisymm (oneWf.liveCount_le_of_tally twoWf same)
        (twoWf.liveCount_le_of_tally oneWf same.symm),
      fun id => oneWf.existsUnique_of_tally twoWf same,
      fun other => twoWf.existsUnique_of_tally oneWf same.symm⟩
    · rw [oneWf.exists_resolve?_iff, twoWf.exists_resolve?_iff, same]
    · intro key id other resolved found
      rw [oneWf.lookupCount?_eq resolved, twoWf.lookupCount?_eq found, same]

/-- Two keys take turns: the first one loses its ID when more is given back than it had, the
second one is looked up, and then the first one is again. -/
def takingTurns : List (KeyStep Nat) :=
  [.lookup 7, .lookup 7, .forget 7 5, .forget 7 1, .lookup 8, .lookup 7, .lookup 7, .forget 7 1]

/-- With one shard the second key gets the ID that the first one had; with three shards, and
IDs not issued again, it does not. -/
theorem setup_invisible_takingTurns :
    let one := Table.fresh 0 ⟨1, true⟩ UInt64.ofNat
    let two := Table.fresh 0 ⟨3, false⟩ fun key => .ofNat (key * key)
    (∀ exchange ∈ transcript Table.keyStep one takingTurns, exchange.2 ≠ .exhausted) ∧
    (∀ exchange ∈ transcript Table.keyStep two takingTurns, exchange.2 ≠ .exhausted) ∧
    (performAll Table.keyStep one takingTurns).idOf? 8 = some ⟨2⟩ ∧
    (performAll Table.keyStep two takingTurns).idOf? 8 = some ⟨6⟩ ∧
    transcript Table.keyStep one takingTurns = transcript Table.keyStep two takingTurns ∧
    (performAll Table.keyStep one takingTurns).liveCount =
      (performAll Table.keyStep two takingTurns).liveCount := by
  intro one two
  have firstEnough : ∀ exchange ∈ transcript Table.keyStep one takingTurns,
      exchange.2 ≠ .exhausted := by decide
  have secondEnough : ∀ exchange ∈ transcript Table.keyStep two takingTurns,
      exchange.2 ≠ .exhausted := by decide
  obtain ⟨same, always⟩ := setup_invisible 0 ⟨1, true⟩ ⟨3, false⟩ UInt64.ofNat
    (fun key => .ofNat (key * key)) takingTurns firstEnough secondEnough
  obtain ⟨_, _, counted, _⟩ := always takingTurns List.prefix_rfl
  exact ⟨firstEnough, secondEnough, by decide, by decide, same, counted⟩

end UserFs.Inode
