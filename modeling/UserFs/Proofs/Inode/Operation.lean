import UserFs.Proofs.Inode.Run

/-!
# Operations and the shards they are about

An operation looks a key up, gives lookups of an ID back, or asks about an ID. All but those
about the root, or about an ID below those that are minted, are about one shard (`Table.route?`):
they are answered from that shard alone and change no other one (`Table.perform_of_concerns`,
`Table.getElem?_perform_of_route_ne`). So what a shard sees of the operations on a table is a
run of its own (`Table.transcript_routed`), whatever else is asked of the table in between.
-/

namespace UserFs.Inode

/-- A call of an inode table, or a question about an ID. -/
inductive Operation (κ : Type) where
  | lookup (key : κ)
  | forget (id : InodeId) (count : UInt64)
  /-- Asks for the key that an ID stands for. -/
  | resolve (id : InodeId)
  | generation (id : InodeId)
  | lookupCount (id : InodeId)
  deriving DecidableEq

/-- What is answered to an operation. -/
inductive Answer (κ : Type) where
  /-- The incarnation that a lookup was given; none if the numbers are used up. -/
  | found (incarnation? : Option Incarnation)
  | forgot (outcome : ForgetOutcome)
  | key (key? : Option κ)
  | generation (generation? : Option Generation)
  | lookupCount (count? : Option UInt64)
  deriving DecidableEq

variable {κ σ : Type}

/-- Whether an operation is about one of a shard's own keys or IDs. -/
def Operation.Concerns (slot : Slot) (belongs : κ → Prop) : Operation κ → Prop
  | lookup key => belongs key
  | forget id _ | resolve id | generation id | lookupCount id => slot.Owns id

/-! ## Runs -/

section

variable {ι α : Type}

/-- Operations performed in order, each with its answer. -/
def transcript (perform : σ → ι → α × σ) : σ → List ι → List (ι × α)
  | _, [] => []
  | state, operation :: rest =>
    (operation, (perform state operation).1) :: transcript perform (perform state operation).2 rest

/-- The state after operations performed in order. -/
def performAll (perform : σ → ι → α × σ) : σ → List ι → σ
  | state, [] => state
  | state, operation :: rest => performAll perform (perform state operation).2 rest

theorem map_fst_transcript (perform : σ → ι → α × σ) (state : σ) (operations : List ι) :
    (transcript perform state operations).map Prod.fst = operations := by
  induction operations generalizing state with
  | nil => rfl
  | cons operation rest ih => rw [transcript, List.map_cons, ih]

theorem transcript_append (perform : σ → ι → α × σ) (state : σ) (first second : List ι) :
    transcript perform state (first ++ second) = transcript perform state first ++
      transcript perform (performAll perform state first) second := by
  induction first generalizing state with
  | nil => rfl
  | cons operation rest ih => exact congrArg _ (ih (perform state operation).2)

theorem performAll_append (perform : σ → ι → α × σ) (state : σ) (first second : List ι) :
    performAll perform state (first ++ second) =
      performAll perform (performAll perform state first) second := by
  induction first generalizing state with
  | nil => rfl
  | cons operation rest ih => exact ih (perform state operation).2

/-- What holds before the first operation and is kept by every one holds, of the answers so far and
the state that is left, after every run. -/
theorem transcript_induction {perform : σ → ι → α × σ} {motive : List (ι × α) → σ → Prop}
    {state : σ} (start : motive [] state)
    (step : ∀ past now operation, motive past now →
      motive (past ++ [(operation, (perform now operation).1)]) (perform now operation).2)
    (operations : List ι) :
    motive (transcript perform state operations) (performAll perform state operations) := by
  -- the induction is on the operations still to be performed, for any past
  have fromPast : ∀ (operations : List ι) (past : List (ι × α)) (now : σ), motive past now →
      motive (past ++ transcript perform now operations) (performAll perform now operations) := by
    intro operations
    induction operations with
    | nil =>
      intro past now holds
      rwa [transcript, List.append_nil]
    | cons operation rest ih =>
      intro past now holds
      have next := ih _ _ (step past now operation holds)
      rwa [List.append_assoc] at next
  exact fromPast operations [] state start

/-- What a run can do without. Let a needless operation keep the run like another one that waits
meanwhile, and any other be answered alike by both and keep them alike. Then the run without the
needless operations answers the others as the whole run does, and ends like it. -/
theorem transcript_without (perform : σ → ι → α × σ) (needless : ι × α → Bool)
    (Like : σ → σ → Prop)
    (stays : ∀ state other operation, Like state other →
      needless (operation, (perform state operation).1) = true →
      Like (perform state operation).2 other)
    (follows : ∀ state other operation, Like state other →
      needless (operation, (perform state operation).1) = false →
      (perform other operation).1 = (perform state operation).1 ∧
        Like (perform state operation).2 (perform other operation).2)
    {state other : σ} (like : Like state other) (operations : List ι) :
    let needed := (transcript perform state operations).filter fun exchange => !needless exchange
    transcript perform other (needed.map Prod.fst) = needed ∧
      Like (performAll perform state operations)
        (performAll perform other (needed.map Prod.fst)) := by
  induction operations generalizing state other with
  | nil => exact ⟨rfl, like⟩
  | cons operation rest ih =>
    rw [transcript, performAll]
    cases left : needless (operation, (perform state operation).1) with
    | true =>
      rw [List.filter_cons_of_neg (by simp [left])]
      exact ih (stays state other operation like left)
    | false =>
      obtain ⟨answered, alike⟩ := follows state other operation like left
      obtain ⟨shown, ends⟩ := ih alike
      rw [List.filter_cons_of_pos (by simp [left])]
      dsimp only
      rw [List.map_cons, transcript, performAll, answered, shown]
      exact ⟨rfl, ends⟩

end

/-! ## Operations on shards and tables -/

namespace Table

theorem map_shardOfId?_eq_some_iff {table : Table κ} {id : InodeId}
    {index : Fin table.shards.size} :
    (table.shardOfId? id).map Fin.val = some index.val ↔ (table.slotAt index).Owns id := by
  rw [← shardOfId?_eq_some_iff, Option.map_eq_some_iff]
  constructor
  · rintro ⟨other, routed, same⟩
    rwa [Fin.ext same] at routed
  · intro routed
    exact ⟨index, routed, rfl⟩

theorem SameSetup.slotAt_eq {table other : Table κ} (same : table.SameSetup other) (index : Nat) :
    other.slotAt index = table.slotAt index := by
  rw [slotAt, slotAt, same.recycle_eq, same.size_eq]

end Table

variable [DecidableEq κ]

/-- Performs an operation on one shard. -/
def Shard.perform (slot : Slot) (shard : Shard κ) : Operation κ → Answer κ × Shard κ
  | .lookup key => (.found (shard.lookup slot key).1, (shard.lookup slot key).2)
  | .forget id count => (.forgot (shard.forget slot id count).1, (shard.forget slot id count).2)
  | .resolve id => (.key ((shard.record? id).map (·.key)), shard)
  | .generation id => (.generation ((shard.record? id).map (·.generation)), shard)
  | .lookupCount id => (.lookupCount ((shard.record? id).map (·.lookups)), shard)

theorem Shard.Wf.perform {slot : Slot} {belongs : κ → Prop} {shard : Shard κ}
    (wf : shard.Wf slot belongs) (inRange : slot.index < slot.count) {operation : Operation κ}
    (concerns : operation.Concerns slot belongs) :
    (shard.perform slot operation).2.Wf slot belongs := by
  cases operation with
  | lookup key => exact (looked_lookup slot wf.linked key).wf inRange wf concerns
  | forget id count => exact (forgot_forget slot shard id count).wf wf
  | resolve | generation | lookupCount => exact wf

namespace Table

/-- Performs an operation. -/
def perform (table : Table κ) : Operation κ → Answer κ × Table κ
  | .lookup key => (.found (table.lookup key).1, (table.lookup key).2)
  | .forget id count => (.forgot (table.forget id count).1, (table.forget id count).2)
  | .resolve id => (.key (table.resolve? id), table)
  | .generation id => (.generation (table.generation? id), table)
  | .lookupCount id => (.lookupCount (table.lookupCount? id), table)

/-- The position of the shard that an operation is about. One about the root, or about an ID
below those that are minted, is about none. -/
def route? (table : Table κ) : Operation κ → Option Nat
  | .lookup key => if key = table.rootKey then none else some (table.shardOfKey key)
  | .forget id _ | .resolve id | .generation id | .lookupCount id =>
    (table.shardOfId? id).map Fin.val

/-- The operations that are about the shard at a position. -/
def share (table : Table κ) (index : Nat) (operations : List (Operation κ)) : List (Operation κ) :=
  operations.filter fun operation => table.route? operation = some index

/-- The part of a transcript that is about the shard at a position. -/
def shareOf (table : Table κ) (index : Nat) (exchanges : List (Operation κ × Answer κ)) :
    List (Operation κ × Answer κ) :=
  exchanges.filter fun exchange => table.route? exchange.1 = some index

/-! ## Which shard an operation is about -/

theorem route?_eq_some_iff {table : Table κ} {operation : Operation κ}
    (index : Fin table.shards.size) :
    table.route? operation = some index.val ↔
      operation.Concerns (table.slotAt index) (table.Belongs index) := by
  cases operation with
  | lookup key =>
    by_cases isRoot : key = table.rootKey
    · rw [route?, if_pos isRoot]
      exact ⟨nofun, fun belongs => absurd isRoot belongs.ne_rootKey⟩
    · rw [route?, if_neg isRoot, Option.some.injEq]
      exact ⟨fun same => ⟨isRoot, same⟩, fun belongs => belongs.index_eq⟩
  | forget | resolve | generation | lookupCount => exact map_shardOfId?_eq_some_iff

theorem SameSetup.route?_eq {table other : Table κ} (same : table.SameSetup other) :
    other.route? = table.route? := by
  obtain ⟨rootKey, recycle, hash, size⟩ := same
  funext operation
  cases operation with
  | lookup key =>
    rw [route?, route?, rootKey]
    simp only [shardOfKey, hash, size]
  | forget | resolve | generation | lookupCount =>
    simp only [route?, shardOfId?, size]
    split <;> rfl

/-! ## What an operation does -/

theorem sameSetup_perform (table : Table κ) (operation : Operation κ) :
    table.SameSetup (table.perform operation).2 := by
  cases operation with
  | lookup key => exact table.sameSetup_call (.lookup key)
  | forget id count => exact table.sameSetup_call (.forget id count)
  | resolve | generation | lookupCount => exact .refl table

/-- An operation about a shard is performed on that shard. -/
theorem perform_of_concerns {table : Table κ} {operation : Operation κ}
    {index : Fin table.shards.size}
    (concerns : operation.Concerns (table.slotAt index) (table.Belongs index)) :
    table.perform operation =
      (((table.shardAt index).perform (table.slotAt index) operation).1,
        table.setShard index ((table.shardAt index).perform (table.slotAt index) operation).2) := by
  cases operation with
  | lookup key =>
    obtain rfl : table.shardOfKey key = index := Fin.ext concerns.index_eq
    rw [perform, lookup_of_ne_rootKey table concerns.ne_rootKey]
    rfl
  | forget id count =>
    rw [perform, forget_of_owns table index concerns]
    rfl
  | resolve id =>
    have here := record?_of_owns (getElem?_fin table index) concerns
    simp only [perform, Shard.perform, setShard_self, Shard.record?]
    rw [resolve?_of_ne_root concerns.ne_root, here]
  | generation id =>
    have here := record?_of_owns (getElem?_fin table index) concerns
    simp only [perform, Shard.perform, setShard_self, Shard.record?]
    rw [generation?_of_ne_root concerns.ne_root, here]
  | lookupCount id =>
    have here := record?_of_owns (getElem?_fin table index) concerns
    simp only [perform, Shard.perform, setShard_self, Shard.record?]
    rw [lookupCount?, here]

/-- An operation about no shard changes nothing. -/
theorem perform_of_route_none {table : Table κ} {operation : Operation κ}
    (routed : table.route? operation = none) : (table.perform operation).2 = table := by
  cases operation with
  | lookup key =>
    by_cases isRoot : key = table.rootKey
    · rw [isRoot, perform, lookup_rootKey]
    · rw [route?, if_neg isRoot] at routed
      cases routed
  | forget id count =>
    by_cases isRoot : id = .root
    · rw [isRoot, perform, forget_root]
    · have small := shardOfId?_eq_none_iff.mp (Option.map_eq_none_iff.mp routed)
      rw [perform, forget_of_small table isRoot small]
  | resolve | generation | lookupCount => rfl

/-- An operation that is not about a shard leaves it alone. -/
theorem getElem?_perform_of_route_ne {table : Table κ} {operation : Operation κ} {index : Nat}
    (elsewhere : table.route? operation ≠ some index) :
    (table.perform operation).2.shards[index]? = table.shards[index]? := by
  cases routed : table.route? operation with
  | none => rw [perform_of_route_none routed]
  | some other =>
    have different : other ≠ index := fun same => elsewhere (same ▸ routed)
    have lt : other < table.shards.size := by
      cases operation with
      | lookup key =>
        simp only [route?, Option.ite_none_left_eq_some, Option.some.injEq] at routed
        exact routed.2 ▸ (table.shardOfKey key).isLt
      | forget id | resolve id | generation id | lookupCount id =>
        obtain ⟨place, _, rfl⟩ := Option.map_eq_some_iff.mp routed
        exact place.isLt
    have concerns := (route?_eq_some_iff ⟨other, lt⟩).mp routed
    rw [perform_of_concerns concerns, getElem?_setShard, if_neg different]

/-! ## What a shard sees of a run -/

theorem share_cons (table : Table κ) (index : Nat) (operation : Operation κ)
    (rest : List (Operation κ)) : table.share index (operation :: rest) =
      if table.route? operation = some index then operation :: table.share index rest
      else table.share index rest := by
  simp only [share, List.filter_cons, decide_eq_true_eq]

theorem shareOf_cons (table : Table κ) (index : Nat) (operation : Operation κ)
    (answer : Answer κ) (rest : List (Operation κ × Answer κ)) :
    table.shareOf index ((operation, answer) :: rest) =
      if table.route? operation = some index then (operation, answer) :: table.shareOf index rest
      else table.shareOf index rest := by
  simp only [shareOf, List.filter_cons, decide_eq_true_eq]

theorem SameSetup.share_eq {table other : Table κ} (same : table.SameSetup other) :
    other.share = table.share := by
  funext index operations
  rw [share, share, same.route?_eq]

theorem SameSetup.shareOf_eq {table other : Table κ} (same : table.SameSetup other) :
    other.shareOf = table.shareOf := by
  funext index exchanges
  rw [shareOf, shareOf, same.route?_eq]

/-- What a table shows of the operations about one shard is what the shard shows of them when
they are performed on it alone; and it is left as they leave it. -/
theorem transcript_routed {table : Table κ} {index : Nat} {shard : Shard κ}
    (placed : table.shards[index]? = some shard) (operations : List (Operation κ)) :
    table.shareOf index (transcript perform table operations) =
        transcript (Shard.perform (table.slotAt index)) shard (table.share index operations) ∧
      (performAll perform table operations).shards[index]? =
        some (performAll (Shard.perform (table.slotAt index)) shard
          (table.share index operations)) := by
  induction operations generalizing table shard with
  | nil => exact ⟨rfl, placed⟩
  | cons operation rest ih =>
    have setup := table.sameSetup_perform operation
    rw [transcript, performAll, shareOf_cons, share_cons, ← setup.shareOf_eq, ← setup.share_eq,
      ← setup.slotAt_eq]
    by_cases here : table.route? operation = some index
    · obtain ⟨lt, rfl⟩ := Array.getElem?_eq_some_iff.mp placed
      have performed := perform_of_concerns ((route?_eq_some_iff ⟨index, lt⟩).mp here)
      have next : (table.perform operation).2.shards[index]? =
          some ((table.shardAt ⟨index, lt⟩).perform (table.slotAt index) operation).2 := by
        rw [performed, getElem?_setShard, if_pos rfl]
      have answered : (table.perform operation).1 =
          ((table.shardAt ⟨index, lt⟩).perform (table.slotAt index) operation).1 := by
        rw [performed]
      obtain ⟨shown, left⟩ := ih next
      rw [if_pos here, if_pos here, transcript, performAll, shown, answered, setup.slotAt_eq]
      rw [setup.slotAt_eq] at left
      exact ⟨rfl, left⟩
    · rw [if_neg here, if_neg here]
      exact ih ((getElem?_perform_of_route_ne here).trans placed)

end Table

end UserFs.Inode
