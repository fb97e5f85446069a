import Mathlib.Order.Bounds.Defs
import UserFs.Proofs.Inode.Incarnations
import UserFs.Proofs.Inode.Turnover

/-!
# No number is taken without need

A shard takes a new number only when no ID waits to be issued again. So where IDs are issued again,
the numbers that are taken are as many as IDs were ever live at once (`Spent.peak_eq`): those live
and those that wait add up to the numbers taken (`Spent.accounted`), and none waits at the moment
the peak grows. Where they are not, each mint takes a number (`Spent.mints_eq`). Either way the
numbers are taken from below and without gaps (`Spent.issued_iff`), which together is
`numbers_needed`.
-/

namespace UserFs.Inode

variable {κ : Type}

namespace Table

/-- The numbers of the IDs that the shard at a position issued. -/
def numbersAt (table : Table κ) (index : Nat) (events : List (Event κ)) : List Nat :=
  (table.issuedAt index events).map (·.id.raw.toNat)

theorem liveAt_of_getElem? {table : Table κ} {index : Nat} {shard : Shard κ}
    (placed : table.shards[index]? = some shard) : table.liveAt index = shard.liveCount := by
  rw [liveAt, placed]
  rfl

/-- All that a table with one shard issues is issued by that shard. -/
theorem issuedAt_of_one {table : Table κ} (one : table.shards.size = 1)
    (events : List (Event κ)) : table.issuedAt 0 events = issued events := by
  have all : table.issuedAt? 0 = Event.issued? := by
    funext event
    cases event with
    | minted key incarnation =>
      have first : (table.shardOfKey key).val = 0 :=
        Nat.lt_one_iff.mp (one ▸ (table.shardOfKey key).isLt)
      exact if_pos first
    | _ => rfl
  rw [issuedAt, all, issued]

theorem liveCount_of_one {table : Table κ} (one : table.shards.size = 1) :
    table.liveCount = table.liveAt 0 := by
  have length : table.shards.toList.length = 1 := one
  obtain ⟨shard, only⟩ := List.length_eq_one_iff.mp length
  have placed : table.shards[0]? = some shard := by
    rw [← Array.getElem?_toList, only]
    rfl
  rw [liveAt_of_getElem? placed, liveCount, only]
  exact Nat.add_zero _

variable [DecidableEq κ]

/-- The most that is measured before, between and after the calls of a run. -/
def peak (measure : Table κ → Nat) : Table κ → List (Call κ) → Nat
  | table, [] => measure table
  | table, call :: rest => max (measure table) (peak measure (table.call call).2 rest)

theorem peak_concat (measure : Table κ → Nat) (table : Table κ) (calls : List (Call κ))
    (call : Call κ) : table.peak measure (calls ++ [call]) =
      max (table.peak measure calls) (measure (table.run (calls ++ [call]))) := by
  induction calls generalizing table with
  | nil => rfl
  | cons first rest ih =>
    rw [List.cons_append, peak, peak, ih, Nat.max_assoc]
    rfl

/-! ## The numbers that a shard has taken -/

/-- What a run has spent of the numbers of the shard at a position. -/
structure Spent (table : Table κ) (index : Nat) (calls : List (Call κ)) (shard : Shard κ) :
    Prop where
  issued_iff : ∀ id, id ∈ (table.issuedAt index (table.history calls)).map (·.id) ↔
    (table.slotAt index).Issued shard.nextSequence id
  accounted : table.recycle = true →
    shard.liveCount + shard.free.length = shard.nextSequence
  peak_eq : table.recycle = true →
    table.peak (fun now => now.liveAt index) calls = shard.nextSequence
  mints_eq : table.recycle = false →
    (table.issuedAt index (table.history calls)).length = shard.nextSequence

theorem spent_start {table : Table κ} {index : Nat} (placed : table.shards[index]? = some .empty) :
    table.Spent index [] .empty where
  issued_iff _ := ⟨nofun, fun issued => absurd issued.sequence_lt (Nat.not_lt_zero _)⟩
  accounted _ := rfl
  peak_eq _ := liveAt_of_getElem? placed
  mints_eq _ := rfl

section

variable {table : Table κ} {index : Nat} {calls : List (Call κ)} {call : Call κ}
  {shard after : Shard κ}

/-- A turnover that takes no number, and leaves no more IDs live than there are numbers taken. -/
theorem Spent.kept (spent : table.Spent index calls shard)
    (left : (table.run (calls ++ [call])).shards[index]? = some after)
    (next : after.nextSequence = shard.nextSequence)
    (issued : ∀ id, id ∈ (table.issuedAt index (table.history (calls ++ [call]))).map (·.id) ↔
      id ∈ (table.issuedAt index (table.history calls)).map (·.id))
    (accounted : table.recycle = true →
      after.liveCount + after.free.length = shard.liveCount + shard.free.length)
    (mints : table.recycle = false →
      (table.issuedAt index (table.history (calls ++ [call]))).length =
        (table.issuedAt index (table.history calls)).length) :
    table.Spent index (calls ++ [call]) after where
  issued_iff id := by rw [issued, spent.issued_iff, next]
  accounted recycles := by rw [accounted recycles, spent.accounted recycles, next]
  peak_eq recycles := by
    have total := spent.accounted recycles
    have same := accounted recycles
    rw [peak_concat, spent.peak_eq recycles, liveAt_of_getElem? left, next]
    omega
  mints_eq kept := by rw [mints kept, spent.mints_eq kept, next]

theorem Spent.step (wf : table.Wf) (spent : table.Spent index calls shard)
    (placed : (table.run calls).shards[index]? = some shard)
    (left : (table.run (calls ++ [call])).shards[index]? = some after)
    (turnover : Turnover (table.run calls) index shard call ((table.run calls).call call).1 after) :
    table.Spent index (calls ++ [call]) after := by
  have setup := table.sameSetup_run calls
  have numbered := (wf.run calls index shard placed).numbered
  have events := table.issuedAt_concat index calls call
  rw [setup.slotAt_eq] at numbered
  cases turnover with
  | quiet issues _ free next live =>
    rw [issues, Option.toList_none, List.append_nil] at events
    refine spent.kept left next (fun id => by rw [events]) (fun _ => ?_) fun _ => by rw [events]
    rw [live, free]
  | @reissued first waiting issues _ recycles queue free next live =>
    rw [setup.recycle_eq] at recycles
    rw [issues, Option.toList_some] at events
    refine spent.kept left next (fun id => ?_) (fun _ => ?_) fun kept => ?_
    · -- what waits was issued before
      have known : first.id ∈ (table.issuedAt index (table.history calls)).map (·.id) :=
        (spent.issued_iff first.id).mpr
          (numbered.issued_free first (queue ▸ List.mem_cons_self))
      rw [events, List.map_append, List.mem_append]
      refine ⟨fun either => ?_, .inl⟩
      rcases either with before | last
      · exact before
      · rw [List.mem_singleton.mp last]
        exact known
    · rw [live, free, queue, List.length_cons]
      omega
    · rw [recycles] at kept
      cases kept
  | @numbered fresh issues _ noneWaits number free next live =>
    rw [setup.slotAt_eq] at number
    rw [setup.recycle_eq] at noneWaits
    rw [issues, Option.toList_some] at events
    have inRange := lt_size_of_run placed
    constructor
    case issued_iff =>
      intro id
      rw [events, List.map_append, List.mem_append, spent.issued_iff, next,
        Slot.issued_succ_iff inRange number, List.map_singleton, List.mem_singleton, or_comm]
    case accounted =>
      intro recycles
      have total := spent.accounted recycles
      rw [live, free, next]
      omega
    case peak_eq =>
      intro recycles
      -- none waits, so all the numbers that were taken are of live IDs
      have total := spent.accounted recycles
      rw [noneWaits recycles, List.length_nil] at total
      rw [peak_concat, spent.peak_eq recycles, liveAt_of_getElem? left, live, next]
      omega
    case mints_eq =>
      intro kept
      rw [events, List.length_append, spent.mints_eq kept, next]
      rfl
  | @retired incarnation issues _ free next live =>
    rw [setup.recycle_eq] at free
    rw [issues, Option.toList_none, List.append_nil] at events
    refine spent.kept left next (fun id => by rw [events]) (fun recycles => ?_)
      fun _ => by rw [events]
    rw [free, if_pos recycles, List.length_append, List.length_singleton]
    omega

end

theorem spent_run (rootKey : κ) (config : TableConfig) (hash : κ → UInt64)
    (calls : List (Call κ)) {index : Nat} {shard : Shard κ}
    (placed : ((fresh rootKey config hash).run calls).shards[index]? = some shard) :
    (fresh rootKey config hash).Spent index calls shard := by
  have wf := wf_fresh rootKey config hash
  refine wf.turnover_induction (fun shard there => ?_) ?_ calls placed
  · obtain rfl := getElem_fresh rootKey config hash there
    exact spent_start there
  · intro calls call shard after before left turnover spent
    exact spent.step wf before left turnover

/-- The numbers that were issued are those that were taken, from the first one on. -/
theorem Spent.mem_numbersAt_iff {table : Table κ} {index : Nat} {calls : List (Call κ)}
    {shard : Shard κ} (wf : table.Wf) (spent : table.Spent index calls shard)
    (placed : (table.run calls).shards[index]? = some shard) (number : Nat) :
    number ∈ table.numbersAt index (table.history calls) ↔
      ∃ sequence < shard.nextSequence, number = 2 + index + table.shards.size * sequence := by
  have setup := table.sameSetup_run calls
  have numbered := (wf.run calls index shard placed).numbered
  rw [setup.slotAt_eq] at numbered
  have inRange := lt_size_of_run placed
  have raw : ∀ id, (table.slotAt index).Owns id →
      id.raw.toNat = 2 + index + table.shards.size * (table.slotAt index).sequence id := by
    intro id owns
    have parts : id.raw.toNat =
        (table.slotAt index).sequence id * table.shards.size + 2 + index := owns.raw_eq
    rw [Nat.mul_comm] at parts
    omega
  constructor
  · intro member
    obtain ⟨incarnation, there, rfl⟩ := List.mem_map.mp member
    obtain ⟨owns, lt⟩ := (spent.issued_iff incarnation.id).mp (List.mem_map_of_mem there)
    exact ⟨_, lt, raw _ owns⟩
  · rintro ⟨sequence, lt, rfl⟩
    obtain ⟨id, known⟩ := Option.isSome_iff_exists.mp (numbered.number?_isSome sequence lt)
    obtain ⟨owns, rfl⟩ := (Slot.number?_eq_some_iff inRange).mp known
    obtain ⟨incarnation, there, same⟩ := List.mem_map.mp ((spent.issued_iff id).mpr ⟨owns, lt⟩)
    refine List.mem_map.mpr ⟨incarnation, there, ?_⟩
    rw [same, raw id owns]

/-! ## A table with one shard -/

theorem peak_liveCount_of_one {table : Table κ} (one : table.shards.size = 1)
    (calls : List (Call κ)) :
    table.peak Table.liveCount calls = table.peak (fun now => now.liveAt 0) calls := by
  induction calls generalizing table with
  | nil => exact liveCount_of_one one
  | cons call rest ih =>
    have still := (table.sameSetup_call call).size_eq.trans one
    rw [peak, peak, liveCount_of_one one, ih still]

/-- The numbers of a single shard begin with 2, so the last one taken is one more than how many
were taken. -/
theorem Spent.isGreatest_issued {table : Table κ} (wf : table.Wf) (one : table.shards.size = 1)
    {calls : List (Call κ)} {shard : Shard κ} (spent : table.Spent 0 calls shard)
    (placed : (table.run calls).shards[0]? = some shard)
    (issues : issued (table.history calls) ≠ []) :
    IsGreatest {number | ∃ incarnation ∈ issued (table.history calls),
      incarnation.id.raw.toNat = number} (1 + shard.nextSequence) := by
  have taken : ∀ number,
      (∃ incarnation ∈ issued (table.history calls), incarnation.id.raw.toNat = number) ↔
        ∃ sequence < shard.nextSequence, number = 2 + sequence := by
    intro number
    rw [← issuedAt_of_one one]
    refine List.mem_map.symm.trans ((spent.mem_numbersAt_iff wf placed number).trans ?_)
    simp only [one, Nat.one_mul, Nat.add_zero]
  constructor
  · -- something was issued, so some number was taken, and the last one is among them
    obtain ⟨incarnation, member⟩ := List.exists_mem_of_ne_nil _ issues
    obtain ⟨sequence, lt, _⟩ := (taken _).mp ⟨incarnation, member, rfl⟩
    exact (taken _).mpr ⟨shard.nextSequence - 1, by omega, by omega⟩
  · rintro number there
    obtain ⟨sequence, lt, rfl⟩ := (taken number).mp there
    omega

end Table

/-! ## The law -/

variable [DecidableEq κ]

/-- **No number is taken without need.** After every run, the numbers of the IDs that a shard of a
table of `size` shards has issued are the first so many of those that are its own, `2 + index`,
`2 + index + size` and so on: as many as IDs of the shard were ever live at once where IDs are
issued again, and as many as the shard made mints where they are not. So in a table with one shard
that issues IDs again, the largest number issued is one more than IDs were ever live at once. -/
theorem numbers_needed (rootKey : κ) (config : TableConfig) (hash : κ → UInt64)
    (calls : List (Call κ)) :
    let table := Table.fresh rootKey config hash
    let events := table.history calls
    let size := max config.shards 1
    (∀ index < size,
      (config.recycle = true → ∀ number, number ∈ table.numbersAt index events ↔
        ∃ sequence < table.peak (fun now => now.liveAt index) calls,
          number = 2 + index + size * sequence) ∧
      (config.recycle = false → ∀ number, number ∈ table.numbersAt index events ↔
        ∃ sequence < (table.numbersAt index events).length,
          number = 2 + index + size * sequence)) ∧
    (size = 1 → config.recycle = true → issued events ≠ [] →
      IsGreatest {number | ∃ incarnation ∈ issued events, incarnation.id.raw.toNat = number}
        (1 + table.peak Table.liveCount calls)) := by
  intro table events size
  have wf : table.Wf := Table.wf_fresh rootKey config hash
  have counted : table.shards.size = size := Table.size_fresh rootKey config hash
  refine ⟨fun index lt => ?_, fun one recycles issues => ?_⟩
  · obtain ⟨shard, placed⟩ := Table.exists_shard_of_run rootKey config hash calls lt
    have spent := Table.spent_run rootKey config hash calls placed
    have numbers := spent.mem_numbersAt_iff wf placed
    rw [counted] at numbers
    refine ⟨fun recycles number => ?_, fun kept number => ?_⟩
    · rw [numbers, spent.peak_eq recycles]
    · rw [numbers, Table.numbersAt, List.length_map, spent.mints_eq kept]
  · have only : table.shards.size = 1 := counted.trans one
    have first : 0 < max config.shards 1 := by omega
    obtain ⟨shard, placed⟩ := Table.exists_shard_of_run rootKey config hash calls first
    have spent := Table.spent_run rootKey config hash calls placed
    rw [Table.peak_liveCount_of_one only, spent.peak_eq recycles]
    exact spent.isGreatest_issued wf only placed issues

theorem numbers_needed_relay :
    let table := Table.fresh 0 ⟨1, true⟩ UInt64.ofNat
    let apart := Table.fresh 0 ⟨2, false⟩ UInt64.ofNat
    issued (table.history relay) ≠ [] ∧
    (∀ number, number ∈ table.numbersAt 0 (table.history relay) ↔
      ∃ sequence < 2, number = 2 + 0 + 1 * sequence) ∧
    (∀ number, number ∈ apart.numbersAt 1 (apart.history relay) ↔
      ∃ sequence < 3, number = 2 + 1 + 2 * sequence) ∧
    IsGreatest {number | ∃ incarnation ∈ issued (table.history relay),
      incarnation.id.raw.toNat = number} 3 := by
  intro table apart
  have issues : issued (table.history relay) ≠ [] := by decide
  have liveAtOnce : table.peak (fun now => now.liveAt 0) relay = 2 := by decide
  have liveInAll : table.peak Table.liveCount relay = 2 := by decide
  have mints : (apart.numbersAt 1 (apart.history relay)).length = 3 := by decide
  obtain ⟨numbers, greatest⟩ := numbers_needed 0 ⟨1, true⟩ UInt64.ofNat relay
  obtain ⟨others, _⟩ := numbers_needed 0 ⟨2, false⟩ UInt64.ofNat relay
  have recycled := (numbers 0 (by decide)).1 rfl
  have fresh := (others 1 (by decide)).2 rfl
  have largest := greatest (by decide) rfl issues
  rw [liveAtOnce] at recycled
  rw [mints] at fresh
  rw [liveInAll] at largest
  exact ⟨issues, recycled, fresh, largest⟩

end UserFs.Inode
