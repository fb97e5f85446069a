import UserFs.Proofs.Inode.Run

/-!
# The ledger of lookups

What the table knows of an ID is what the calls since its last mint add up to: the ID is live
while more lookups were handed out than given back, at every point since (`Held`), and the
count on its record is the difference.

* **the invariant** — `Kept` relates the record of one ID to the events since its last mint,
  and every step keeps it (`Kept.step`);
* **the law** — `ledger_balances` says what all observers tell of the ID after any run.

That the count does not overflow is the one place where the number of lookups matters: the
count is at most the number of lookups made (`handedOut_sinceMint_le`).
-/

namespace UserFs.Inode

variable {κ : Type}

/-! ## Entries since the last mint -/

/-- The events since an ID was last minted, the mint first; none if it never was. -/
def sinceMint (id : InodeId) : List (Event κ) → List (Event κ)
  | [] => []
  | event :: rest =>
    if sinceMint id rest = [] then if event.mints id then event :: rest else []
    else sinceMint id rest

/-- How many lookups of an ID were handed out. -/
def handedOut (id : InodeId) (events : List (Event κ)) : Nat := events.countP (Event.finds id)

/-- How many lookups of an ID were given back. -/
def givenBack (id : InodeId) : List (Event κ) → Nat
  | [] => 0
  | event :: rest => event.givesBack id + givenBack id rest

/-- Whether an ID was minted, and ever since then more lookups of it were handed out than
given back. -/
def Held (id : InodeId) (since : List (Event κ)) : Prop :=
  since ≠ [] ∧ ∀ early, early <+: since → early ≠ [] → givenBack id early < handedOut id early

theorem handedOut_concat (id : InodeId) (events : List (Event κ)) (event : Event κ) :
    handedOut id (events ++ [event]) =
      handedOut id events + if event.finds id then 1 else 0 := by
  rw [handedOut, List.countP_append, List.countP_singleton, handedOut]

theorem givenBack_concat (id : InodeId) (events : List (Event κ)) (event : Event κ) :
    givenBack id (events ++ [event]) = givenBack id events + event.givesBack id := by
  induction events with
  | nil => exact (Nat.add_zero _).trans (Nat.zero_add _).symm
  | cons first rest ih => rw [List.cons_append, givenBack, givenBack, ih, Nat.add_assoc]

theorem sinceMint_concat (id : InodeId) (events : List (Event κ)) (event : Event κ) :
    sinceMint id (events ++ [event]) =
      if event.mints id then [event]
      else if sinceMint id events = [] then [] else sinceMint id events ++ [event] := by
  induction events with
  | nil => simp [sinceMint]
  | cons first rest ih =>
    rw [List.cons_append, sinceMint, ih, sinceMint]
    cases event.mints id <;> cases first.mints id <;> by_cases empty : sinceMint id rest = [] <;>
      simp [empty]

theorem sinceMint_suffix (id : InodeId) (events : List (Event κ)) :
    sinceMint id events <:+ events := by
  induction events with
  | nil => exact List.suffix_refl []
  | cons first rest ih =>
    rw [sinceMint]
    split
    · split
      · exact List.suffix_refl _
      · exact List.nil_suffix
    · exact ih.trans (List.suffix_cons first rest)

theorem sinceMint_ne_nil_iff {id : InodeId} {events : List (Event κ)} :
    sinceMint id events ≠ [] ↔ ∃ event ∈ events, event.mints id = true := by
  induction events with
  | nil => simp [sinceMint]
  | cons first rest ih =>
    rw [sinceMint, List.exists_mem_cons_iff, ← ih]
    by_cases empty : sinceMint id rest = [] <;> cases first.mints id <;> simp [empty]

theorem isLookup_of_finds {id : InodeId} {event : Event κ} (finds : event.finds id = true) :
    event.isLookup = true := by
  cases event with
  | forgot => cases finds
  | _ => rfl

theorem finds_of_mints {id : InodeId} {event : Event κ} (mints : event.mints id = true) :
    event.finds id = true := by
  cases event with
  | minted => exact mints
  | _ => cases mints

/-- No more lookups of an ID are counted than lookups were made. -/
theorem handedOut_sinceMint_le (id : InodeId) (events : List (Event κ)) :
    handedOut id (sinceMint id events) ≤ events.countP Event.isLookup :=
  calc handedOut id (sinceMint id events)
    _ ≤ (sinceMint id events).countP Event.isLookup :=
      List.countP_mono_left fun _ _ finds => isLookup_of_finds finds
    _ ≤ events.countP Event.isLookup := (sinceMint_suffix id events).sublist.countP_le

theorem not_held_nil (id : InodeId) : ¬ Held id ([] : List (Event κ)) := fun held => held.1 rfl

theorem Held.lt {id : InodeId} {since : List (Event κ)} (held : Held id since) :
    givenBack id since < handedOut id since :=
  held.2 since List.prefix_rfl held.1

theorem held_concat_iff {id : InodeId} {since : List (Event κ)} {event : Event κ}
    (minted : since ≠ []) : Held id (since ++ [event]) ↔
      Held id since ∧ givenBack id (since ++ [event]) < handedOut id (since ++ [event]) := by
  constructor
  · intro held
    refine ⟨⟨minted, fun early before => ?_⟩, held.lt⟩
    exact held.2 early (before.trans (List.prefix_append since [event]))
  · rintro ⟨held, more⟩
    refine ⟨List.append_ne_nil_of_right_ne_nil since (List.cons_ne_nil event []),
      fun early before notEmpty => ?_⟩
    rcases List.prefix_concat_iff.mp before with rfl | before
    · exact more
    · exact held.2 early before notEmpty

/-! ## The invariant -/

/-- The record of an ID agrees with the events since its last mint. -/
structure Balanced (id : InodeId) (since : List (Event κ)) (record : Record κ) : Prop where
  held : Held id since
  count_eq : record.lookups.toNat + givenBack id since = handedOut id since
  /-- All lookups that were given the ID were of one key and were given one generation. -/
  found_eq : ∀ event ∈ since, ∀ key incarnation, event.found? = some (key, incarnation) →
    incarnation.id = id → key = record.key ∧ incarnation.generation = record.generation

/-- What a table has of an ID agrees with the past. -/
structure Kept (id : InodeId) (past : List (Event κ)) (table : Table κ) : Prop where
  live : ∀ record, table.record? id = some record → Balanced id (sinceMint id past) record
  dead : table.record? id = none → ¬ Held id (sinceMint id past)

section

variable {id : InodeId} {past : List (Event κ)} {event : Event κ} {now after : Table κ}

/-- The events since the last mint when another event follows that is no mint. -/
theorem sinceMint_concat_of_not_mints (mints : event.mints id = false)
    (minted : sinceMint id past ≠ []) :
    sinceMint id (past ++ [event]) = sinceMint id past ++ [event] := by
  rw [sinceMint_concat, mints, if_neg Bool.false_ne_true, if_neg minted]

theorem not_held_concat (mints : event.mints id = false)
    (dead : ¬ Held id (sinceMint id past)) : ¬ Held id (sinceMint id (past ++ [event])) := by
  by_cases minted : sinceMint id past = []
  · rw [sinceMint_concat, mints, if_neg Bool.false_ne_true, if_pos minted]
    exact not_held_nil id
  · rw [sinceMint_concat_of_not_mints mints minted]
    exact fun held => dead ((held_concat_iff minted).mp held).1

/-- A live ID stays in balance when its count changes as the event says. -/
theorem Balanced.concat {record : Record κ} {lookups : UInt64}
    (balanced : Balanced id (sinceMint id past) record) (mints : event.mints id = false)
    (count : lookups.toNat + event.givesBack id =
      record.lookups.toNat + if event.finds id then 1 else 0) (positive : 0 < lookups.toNat)
    (found : ∀ key incarnation, event.found? = some (key, incarnation) → incarnation.id = id →
      key = record.key ∧ incarnation.generation = record.generation) :
    Balanced id (sinceMint id (past ++ [event])) { record with lookups := lookups } := by
  have minted := balanced.held.1
  have total := balanced.count_eq
  -- the three totals move by what the event adds, so the balance is a sum
  have handed := handedOut_concat id (sinceMint id past) event
  have given := givenBack_concat id (sinceMint id past) event
  rw [sinceMint_concat_of_not_mints mints minted]
  refine ⟨(held_concat_iff minted).mpr ⟨balanced.held, by omega⟩, ?_, ?_⟩
  · show lookups.toNat + _ = _
    omega
  · intro other member key incarnation isFound same
    rcases List.mem_append.mp member with earlier | last
    · exact balanced.found_eq other earlier key incarnation isFound same
    · rw [List.mem_singleton.mp last] at isFound
      exact found key incarnation isFound same

/-- An event that is not about an ID leaves it as it is. -/
theorem Kept.idle (kept : Kept id past now) (same : after.record? id = now.record? id)
    (finds : event.finds id = false) (gives : event.givesBack id = 0) :
    Kept id (past ++ [event]) after := by
  have mints : event.mints id = false := by
    rw [← Bool.not_eq_true] at finds ⊢
    exact fun mints => finds (finds_of_mints mints)
  constructor
  · intro record live
    rw [same] at live
    have balanced := kept.live record live
    -- an ID that is held has a lookup left
    have positive : 0 < record.lookups.toNat := by
      have total := balanced.count_eq
      have more := balanced.held.lt
      omega
    refine balanced.concat mints (by rw [gives, finds]; rfl) positive ?_
    intro key incarnation isFound sameId
    rw [Event.finds, isFound, Option.any_some, decide_eq_true sameId] at finds
    cases finds
  · intro dead
    rw [same] at dead
    exact not_held_concat mints (kept.dead dead)

theorem Kept.of_live (balanced : Balanced id (sinceMint id (past ++ [event])) record)
    (there : after.record? id = some record) : Kept id (past ++ [event]) after where
  live other live := by
    obtain rfl := Option.some.inj (there.symm.trans live)
    exact balanced
  dead gone := by
    rw [there] at gone
    cases gone

theorem Kept.of_dead (notHeld : ¬ Held id (sinceMint id (past ++ [event])))
    (gone : after.record? id = none) : Kept id (past ++ [event]) after where
  live other live := by
    rw [gone] at live
    cases live
  dead _ := notHeld

/-- A first lookup starts a new account. -/
theorem balanced_of_mint {key : κ} {incarnation : Incarnation} (same : incarnation.id = id) :
    Balanced id (sinceMint id (past ++ [.minted key incarnation]))
      ⟨key, incarnation.generation, 1⟩ := by
  have mints : (Event.minted key incarnation).mints id = true := decide_eq_true same
  have finds := finds_of_mints mints
  have one : handedOut id [.minted key incarnation] = 1 := by
    rw [handedOut, List.countP_singleton, if_pos finds]
  rw [sinceMint_concat, if_pos mints]
  refine ⟨⟨List.cons_ne_nil _ _, fun early before notEmpty => ?_⟩, ?_, ?_⟩
  -- the mint is the only event, so it is the only point at which to compare
  · have whole := (List.prefix_concat_iff.mp (show early <+: [] ++ [_] from before)).resolve_right
      fun nothing => notEmpty (List.prefix_nil.mp nothing)
    rw [whole, List.nil_append, one]
    exact Nat.one_pos
  · rw [one]
    rfl
  · intro event member otherKey other isFound _
    rw [List.mem_singleton.mp member] at isFound
    obtain ⟨rfl, rfl⟩ := Prod.mk.inj (Option.some.inj isFound)
    exact ⟨rfl, rfl⟩

theorem Kept.step {call : Call κ} (kept : Kept id past now) (notRoot : id ≠ .root)
    (few : (past ++ [event]).countP Event.isLookup < UInt64.size)
    (step : Table.Step now call event after) : Kept id (past ++ [event]) after := by
  -- what is counted afterwards, if the ID was live
  have counted : ∀ record, now.record? id = some record → after.Counts id
      (record.lookups.toNat + (if event.finds id then 1 else 0) - event.givesBack id) := by
    intro record live
    have balanced := kept.live record live
    have total := balanced.count_eq
    have more := balanced.held.lt
    have bound := handedOut_sinceMint_le id past
    refine Table.Counts.step ((Table.counts_of_some live).mpr ⟨rfl, by omega⟩) step notRoot ?_
    intro finds
    rw [List.countP_append, List.countP_singleton, if_pos (isLookup_of_finds finds)] at few
    omega
  cases step.touched notRoot with
  | idle mints finds same gives =>
    rcases gives with none | dead
    · exact kept.idle same finds none
    · exact .of_dead (not_held_concat mints (kept.dead dead)) (same.trans dead)
  | @counted record told live still =>
    subst told
    have finds : (Event.returned record.key ⟨id, record.generation⟩).finds id = true :=
      decide_eq_true rfl
    obtain ⟨total, positive⟩ := (Table.counts_of_some still).mp (counted record live)
    rw [if_pos finds] at total positive
    refine .of_live ((kept.live record live).concat rfl ?_ (total ▸ positive) ?_) still
    · rw [if_pos finds]
      exact total
    · rintro _ _ ⟨⟩ _
      exact ⟨rfl, rfl⟩
  | minted _ told _ live =>
    subst told
    exact .of_live (balanced_of_mint rfl) live
  | @remaining given outcome record told live fewer still =>
    subst told
    have less := UInt64.lt_iff_toNat_lt.mp fewer
    have gives : (Event.forgot id given outcome : Event κ).givesBack id = given.toNat := if_pos rfl
    obtain ⟨total, positive⟩ := (Table.counts_of_some still).mp (counted record live)
    refine .of_live ((kept.live record live).concat rfl ?_ (total ▸ positive) nofun) still
    dsimp only at total
    rw [total, gives]
    exact Nat.sub_add_cancel (Nat.le_of_lt less)
  | @retired given _ record told live all dead =>
    subst told
    have balanced := kept.live record live
    have total := balanced.count_eq
    -- nothing is counted any more, so at this point no more was handed out than given back
    have none := (Table.counts_of_none dead).mp (counted record live)
    refine .of_dead ?_ dead
    rw [sinceMint_concat_of_not_mints rfl balanced.held.1]
    intro held
    have lt := held.lt
    rw [handedOut_concat, givenBack_concat] at lt
    omega

end

/-- Before any call no ID but the root is live, and none was minted. -/
theorem kept_fresh (id : InodeId) (table : Table κ) (gone : table.record? id = none) :
    Kept id [] table where
  live record live := by
    rw [gone] at live
    cases live
  dead _ := not_held_nil id

/-! ## The law -/

variable [DecidableEq κ]

/-- After every run with fewer than `2 ^ 64` lookups, every ID but the root agrees with its
past. -/
theorem kept_run (rootKey : κ) (config : TableConfig) (hash : κ → UInt64)
    (calls : List (Call κ)) (few : calls.countP Call.isLookup < UInt64.size) {id : InodeId}
    (notRoot : id ≠ .root) :
    Kept id ((Table.fresh rootKey config hash).history calls)
      ((Table.fresh rootKey config hash).run calls) := by
  rw [← Table.countP_isLookup_history (Table.fresh rootKey config hash)] at few
  -- the bound is part of what is proved along the run, since the step lemma needs it
  revert few
  refine (Table.wf_fresh rootKey config hash).run_induction
    (motive := fun past now => past.countP Event.isLookup < UInt64.size → Kept id past now)
    ?_ ?_ calls
  · intro _
    exact kept_fresh id _ (Table.record?_fresh rootKey config hash id)
  · intro past now call wf ih few
    have fewBefore := few
    rw [List.countP_append] at fewBefore
    exact (ih (Nat.lt_of_le_of_lt (Nat.le_add_right _ _) fewBefore)).step notRoot few (wf.step call)

/-- **The ledger balances.** After any run with fewer than `2 ^ 64` lookups, an ID other than
the root is live exactly if it was minted and ever since more lookups of it were handed out
than given back. While it is live, its count is the difference, its key and its generation
are those of all lookups since the mint, and a further lookup of the key returns the same
incarnation. Where it is not live, nothing is known of it and it cannot be forgotten. -/
theorem ledger_balances (rootKey : κ) (config : TableConfig) (hash : κ → UInt64)
    (calls : List (Call κ)) (few : calls.countP Call.isLookup < UInt64.size) (id : InodeId)
    (notRoot : id ≠ .root) :
    let table := (Table.fresh rootKey config hash).run calls
    let history := (Table.fresh rootKey config hash).history calls
    let since := sinceMint id history
    (table.isValid id = true ↔ (∃ event ∈ history, event.mints id = true) ∧
      ∀ early, early <+: since → early ≠ [] → givenBack id early < handedOut id early) ∧
    (table.isValid id = true → ∃ key generation count,
      table.lookupCount? id = some count ∧
      count.toNat = handedOut id since - givenBack id since ∧ 1 ≤ count.toNat ∧
      table.resolve? id = some key ∧ table.generation? id = some generation ∧
      (∀ event ∈ since, ∀ otherKey incarnation,
        event.found? = some (otherKey, incarnation) → incarnation.id = id →
        otherKey = key ∧ incarnation.generation = generation) ∧
      (table.lookup key).1 = some ⟨id, generation⟩) ∧
    (table.isValid id = false → table.resolve? id = none ∧ table.generation? id = none ∧
      table.lookupCount? id = none ∧ ∀ count, (table.forget id count).1 = .unknown) := by
  intro table history since
  have kept : Kept id _ table := kept_run rootKey config hash calls few notRoot
  have wf : table.Wf := (Table.wf_fresh rootKey config hash).run calls
  rw [← sinceMint_ne_nil_iff, Table.isValid_of_ne_root notRoot, Table.resolve?_of_ne_root notRoot,
    Table.generation?_of_ne_root notRoot, Table.lookupCount?]
  cases found : table.record? id with
  | some record =>
    obtain ⟨held, count, same⟩ := kept.live record found
    have positive := held.lt
    refine ⟨⟨fun _ => held, fun _ => rfl⟩, fun _ => ?_, nofun⟩
    refine ⟨record.key, record.generation, record.lookups, rfl, ?_, ?_, rfl, rfl, same,
      wf.lookup_of_record? found⟩
    · exact Nat.eq_sub_of_add_eq count
    · show 1 ≤ record.lookups.toNat
      omega
  | none =>
    refine ⟨⟨nofun, fun held => absurd held (kept.dead found)⟩, nofun, fun _ => ?_⟩
    exact ⟨rfl, rfl, rfl, fun count => table.forget_of_dead notRoot found count⟩

theorem ledger_balances_turns :
    let table := (Table.fresh 0 ⟨1, true⟩ UInt64.ofNat).run turns
    turns.countP Call.isLookup < UInt64.size ∧ (⟨2⟩ : InodeId) ≠ .root ∧
    table.isValid ⟨2⟩ = true ∧ ∃ count, table.lookupCount? ⟨2⟩ = some count ∧ count.toNat = 2 := by
  intro table
  have few : turns.countP Call.isLookup < UInt64.size := by decide
  have notRoot : (⟨2⟩ : InodeId) ≠ .root := by decide
  have valid : table.isValid ⟨2⟩ = true := by decide
  obtain ⟨_, live, _⟩ := ledger_balances 0 ⟨1, true⟩ UInt64.ofNat turns few ⟨2⟩ notRoot
  obtain ⟨_, _, count, counted, total, _⟩ := live valid
  have difference : handedOut ⟨2⟩ (sinceMint ⟨2⟩ ((Table.fresh 0 ⟨1, true⟩ UInt64.ofNat).history
      turns)) - givenBack ⟨2⟩ (sinceMint ⟨2⟩ ((Table.fresh 0 ⟨1, true⟩ UInt64.ofNat).history
      turns)) = 2 := by decide
  exact ⟨few, notRoot, valid, count, counted, total.trans difference⟩

end UserFs.Inode
