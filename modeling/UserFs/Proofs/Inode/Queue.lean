import UserFs.Proofs.Inode.Incarnations
import UserFs.Proofs.Inode.Turnover

/-!
# The queue of retired IDs

Where IDs are issued again, a shard issues them in the order in which it retired them. At every
point of a run, what it has retired so far is what it has issued again, each one generation
earlier, followed by what waits (`retiredAt_eq`): a retirement adds to the end of both sides, and
an ID that is issued again moves from the one part of the right side to the other. Two facts of
`Shard.Dated` tell the two kinds of mint apart: what waits was minted before, and an ID with the
next number was not.

A new number is taken only when none waits, and then the two histories are equally long
(`retired_return_in_order`).
-/

namespace UserFs

/-- The incarnation of the same ID before this one; before the first generation comes the last. -/
def Incarnation.previous (incarnation : Incarnation) : Incarnation :=
  ⟨incarnation.id, ⟨incarnation.generation.raw - 1⟩⟩

theorem Incarnation.previous_next (id : InodeId) (generation : Generation) :
    (⟨id, generation.next⟩ : Incarnation).previous = ⟨id, generation⟩ := by
  rw [previous, Generation.next, UInt64.add_sub_cancel]

namespace Inode

variable {κ : Type}

namespace Table

/-! ## What is issued again -/

/-- The incarnation that an event issues to a key of the shard at a position, if its ID was
minted before. -/
def reissuedAt? (table : Table κ) (index : Nat) (past : List (Event κ)) (event : Event κ) :
    Option Incarnation :=
  (table.issuedAt? index event).filter fun incarnation => 0 < mintCount incarnation.id past

/-- The incarnations that the shard at a position issued to IDs that were minted before, where
`past` is what happened before the events. -/
def reissuedAt (table : Table κ) (index : Nat) : List (Event κ) → List (Event κ) →
    List Incarnation
  | _, [] => []
  | past, event :: rest =>
    (table.reissuedAt? index past event).toList ++ table.reissuedAt index (past ++ [event]) rest

theorem reissuedAt_concat (table : Table κ) (index : Nat) (past events : List (Event κ))
    (event : Event κ) : table.reissuedAt index past (events ++ [event]) =
      table.reissuedAt index past events ++
        (table.reissuedAt? index (past ++ events) event).toList := by
  induction events generalizing past with
  | nil =>
    rw [List.nil_append, reissuedAt, reissuedAt, reissuedAt, List.append_nil, List.append_nil]
    rfl
  | cons first rest ih =>
    rw [List.cons_append, reissuedAt, ih, reissuedAt, List.append_assoc, List.append_assoc]
    rfl

section

variable {table : Table κ} {index : Nat} {past : List (Event κ)} {event : Event κ}
  {incarnation : Incarnation}

theorem reissuedAt?_of_none (issues : table.issuedAt? index event = none) :
    table.reissuedAt? index past event = none := by
  rw [reissuedAt?, issues, Option.filter_none]

theorem reissuedAt?_of_minted (issues : table.issuedAt? index event = some incarnation)
    (before : 0 < mintCount incarnation.id past) :
    table.reissuedAt? index past event = some incarnation := by
  rw [reissuedAt?, issues]
  exact Option.filter_some_pos (decide_eq_true before)

theorem reissuedAt?_of_new (issues : table.issuedAt? index event = some incarnation)
    (never : mintCount incarnation.id past = 0) :
    table.reissuedAt? index past event = none := by
  rw [reissuedAt?, issues]
  exact Option.filter_some_neg (decide_eq_false (by omega))

end

variable [DecidableEq κ]

theorem reissuedAt_history_concat (table : Table κ) (index : Nat) (calls : List (Call κ))
    (call : Call κ) : table.reissuedAt index [] (table.history (calls ++ [call])) =
      table.reissuedAt index [] (table.history calls) ++
        ((table.run calls).reissuedAt? index (table.history calls)
          ((table.run calls).call call).1).toList := by
  have setup := table.sameSetup_run calls
  rw [history_append, reissuedAt?, setup.issuedAt?_eq]
  exact table.reissuedAt_concat index [] _ _

/-! ## The queue -/

/-- **The balance of the queue.** What was retired was issued again or waits, in this order. -/
theorem retiredAt_eq (rootKey : κ) {config : TableConfig} (recycles : config.recycle = true)
    (hash : κ → UInt64) (calls : List (Call κ)) {index : Nat} {shard : Shard κ}
    (placed : ((fresh rootKey config hash).run calls).shards[index]? = some shard) :
    let table := fresh rootKey config hash
    table.retiredAt index calls =
      (table.reissuedAt index [] (table.history calls)).map Incarnation.previous ++ shard.free := by
  intro table
  have wf : table.Wf := wf_fresh rootKey config hash
  refine wf.turnover_induction (motive := fun calls shard => table.retiredAt index calls =
    (table.reissuedAt index [] (table.history calls)).map Incarnation.previous ++ shard.free)
    (fun shard there => ?_) ?_ calls placed
  · rw [getElem_fresh rootKey config hash there]
    rfl
  · intro calls call shard after before left turnover balance
    have dated := (dated_run rootKey config hash calls).shards index shard before
    have setup := table.sameSetup_run calls
    have retired := table.retiredAt_concat index calls call
    have reissued := table.reissuedAt_history_concat index calls call
    rw [retired, reissued, balance]
    cases turnover with
    | quiet issues retires free =>
      rw [retires, reissuedAt?_of_none issues, free]
      simp
    | @reissued first waiting issues retires _ queue free =>
      have known : 0 < mintCount first.id (table.history calls) :=
        dated.minted_pos (queue ▸ List.mem_cons_self)
      rw [retires, reissuedAt?_of_minted issues known, queue, free]
      simp [Incarnation.previous_next]
    | @numbered id issues retires _ number free =>
      obtain ⟨lt, _⟩ := Array.getElem?_eq_some_iff.mp before
      obtain ⟨owns, sequence⟩ := (Slot.number?_eq_some_iff lt).mp number
      have never := dated.unissued id owns (Nat.le_of_eq sequence.symm)
      rw [retires, reissuedAt?_of_new issues never, free]
      simp
    | retired issues retires free =>
      have again : table.recycle = true := recycles
      rw [setup.recycle_eq, if_pos again] at free
      rw [retires, reissuedAt?_of_none issues, free]
      simp

end Table

/-! ## The law -/

variable [DecidableEq κ]

/-- **Retired IDs come back in order.** At every point of every run of a table that issues IDs
again, what a shard has issued to IDs that were minted before is, each one generation earlier, the
beginning of what it has retired. When a key of the shard is then given an ID that was never minted,
all that was retired has been issued again. -/
theorem retired_return_in_order (rootKey : κ) (config : TableConfig) (hash : κ → UInt64)
    (calls : List (Call κ)) (recycles : config.recycle = true) (index : Nat)
    (inRange : index < max config.shards 1) :
    let table := Table.fresh rootKey config hash
    let reissued := table.reissuedAt index [] (table.history calls)
    let retired := table.retiredAt index calls
    reissued.map Incarnation.previous <+: retired ∧
    ∀ key incarnation, (table.shardOfKey key).val = index →
      ((table.run calls).call (.lookup key)).1 = .minted key incarnation →
      mintCount incarnation.id (table.history calls) = 0 → reissued.length = retired.length := by
  intro table reissued retired
  have wf : table.Wf := Table.wf_fresh rootKey config hash
  have setup := table.sameSetup_run calls
  obtain ⟨shard, placed⟩ := Table.exists_shard_of_run rootKey config hash calls inRange
  have balance : retired = reissued.map Incarnation.previous ++ shard.free :=
    Table.retiredAt_eq rootKey recycles hash calls placed
  refine ⟨⟨_, balance.symm⟩, fun key incarnation here minted never => ?_⟩
  have issued : (table.run calls).issuedAt? index (.minted key incarnation) = some incarnation := by
    rw [setup.issuedAt?_eq]
    exact if_pos here
  obtain ⟨after, _, turnover⟩ := (wf.run calls).turnover (.lookup key) placed
  rw [minted] at turnover
  cases turnover with
  | quiet issues | retired issues =>
    rw [issued] at issues
    cases issues
  | @reissued first _ issues _ _ queue =>
    rw [issued] at issues
    cases issues
    have dated := (Table.dated_run rootKey config hash calls).shards index shard placed
    have known : 0 < mintCount first.id (table.history calls) :=
      dated.minted_pos (queue ▸ List.mem_cons_self)
    exact absurd never (Nat.ne_of_gt known)
  | numbered _ _ noneWaits =>
    have again : (table.run calls).recycle = true := setup.recycle_eq.trans recycles
    rw [balance, noneWaits again, List.append_nil, List.length_map]

/-- At the end of the relay three IDs have come back, and the next key gets a new one. -/
theorem retired_return_in_order_relay :
    let table := Table.fresh 0 ⟨1, true⟩ UInt64.ofNat
    table.retiredAt 0 relay = [⟨⟨2⟩, ⟨0⟩⟩, ⟨⟨3⟩, ⟨0⟩⟩, ⟨⟨2⟩, ⟨1⟩⟩] ∧
    ((table.run relay).call (.lookup 11)).1 = .minted 11 ⟨⟨4⟩, ⟨0⟩⟩ ∧
    mintCount ⟨4⟩ (table.history relay) = 0 ∧
    (table.reissuedAt 0 [] (table.history relay)).map Incarnation.previous <+:
      table.retiredAt 0 relay ∧
    (table.reissuedAt 0 [] (table.history relay)).length = (table.retiredAt 0 relay).length := by
  intro table
  have minted : ((table.run relay).call (.lookup 11)).1 = .minted 11 ⟨⟨4⟩, ⟨0⟩⟩ := by decide
  have never : mintCount ⟨4⟩ (table.history relay) = 0 := by decide
  obtain ⟨order, balanced⟩ := retired_return_in_order 0 ⟨1, true⟩ UInt64.ofNat relay rfl 0
    (by decide)
  exact ⟨by decide, minted, never, order, balanced 11 _ (by decide) minted never⟩

end Inode

end UserFs
