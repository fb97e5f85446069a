import UserFs.Handle.Table
import UserFs.Proofs.Inode.Operation

/-!
# The life of a handle

A handle is given out by an open and stands for it until it is released. Which handles are open, and
for what, can be told from the calls so far and their answers (`StandsFor`):

* **numbers** — the handle of an open is one more than the opens before it, so while the numbers
  last it is greater than every earlier handle, and no release in between matters;
* **the invariant** — `Kept` relates the table to the past, and every call keeps it (`Kept.perform`):
  an open adds one handle that was never given out, and a release takes one away or does nothing;
* **the law** — `handle_lifecycle` says what all observers tell after any run.
-/

namespace UserFs.Handle

variable {ν : Type}

/-! ## Calls and answers -/

/-- A call of a handle table. -/
inductive Call (ν : Type) where
  | openWith (value : ν)
  | get (handle : HandleId)
  | isOpen (handle : HandleId)
  | release (handle : HandleId)
  deriving DecidableEq

/-- What is answered to a call. -/
inductive Answer (ν : Type) where
  | opened (handle : HandleId)
  | got (value? : Option ν)
  | told (isOpen : Bool)
  | released (value? : Option ν)
  deriving DecidableEq

/-- Whether a call is an open. -/
def Call.isOpening : Call ν → Bool
  | .openWith _ => true
  | _ => false

/-- The handle that an open was answered with. -/
def Answer.handle? : Answer ν → Option HandleId
  | .opened handle => some handle
  | _ => none

/-- Whether a release was answered with a value. -/
def Answer.givesBack : Answer ν → Bool
  | .released value? => value?.isSome
  | _ => false

/-- Works on a call. -/
def Table.perform (table : Table ν) : Call ν → Answer ν × Table ν
  | .openWith value => (.opened (table.openWith value).1, (table.openWith value).2)
  | .get handle => (.got (table.get? handle), table)
  | .isOpen handle => (.told (table.isOpen handle), table)
  | .release handle => (.released (table.release handle).1, (table.release handle).2)

/-! ## What the past says -/

/-- The handles that were given out, in the order of their opens. -/
def handedOut (past : List (Call ν × Answer ν)) : List HandleId :=
  past.filterMap fun exchange => exchange.2.handle?

/-- How many opens there were. -/
def opens (past : List (Call ν × Answer ν)) : Nat :=
  past.countP fun exchange => exchange.1.isOpening

/-- How many releases were answered with a value. -/
def givenBack (past : List (Call ν × Answer ν)) : Nat :=
  past.countP fun exchange => exchange.2.givesBack

/-- Whether an open with this value was answered with the handle, and the handle was not released
since. -/
def StandsFor (past : List (Call ν × Answer ν)) (handle : HandleId) (value : ν) : Prop :=
  ∃ early late, past = early ++ (.openWith value, .opened handle) :: late ∧
    ∀ exchange ∈ late, exchange.1 ≠ .release handle

theorem not_standsFor_nil (handle : HandleId) (value : ν) : ¬ StandsFor [] handle value := by
  rintro ⟨early, late, empty, _⟩
  exact List.append_ne_nil_of_right_ne_nil early (List.cons_ne_nil _ late) empty.symm

theorem standsFor_concat_iff {past : List (Call ν × Answer ν)} {exchange : Call ν × Answer ν}
    {handle : HandleId} {value : ν} :
    StandsFor (past ++ [exchange]) handle value ↔
      exchange = (.openWith value, .opened handle) ∨
        StandsFor past handle value ∧ exchange.1 ≠ .release handle := by
  constructor
  · rintro ⟨early, late, split, unreleased⟩
    -- the open is either the last exchange or lies before it
    rcases late.eq_nil_or_concat with rfl | ⟨before, last, rfl⟩
    · exact .inl (List.singleton_inj.mp (List.append_inj' split rfl).2)
    · rw [List.concat_eq_append, ← List.cons_append, ← List.append_assoc] at split
      obtain ⟨rfl, same⟩ := List.append_inj' split rfl
      cases same
      refine .inr ⟨⟨early, before, rfl, fun other member => ?_⟩, ?_⟩
      · exact unreleased other (by simp [member])
      · exact unreleased exchange (by simp)
  · rintro (rfl | ⟨⟨early, late, rfl, unreleased⟩, other⟩)
    · exact ⟨past, [], rfl, fun _ none => absurd none List.not_mem_nil⟩
    · refine ⟨early, late ++ [exchange], by simp, fun another member => ?_⟩
      rcases List.mem_append.mp member with earlier | last
      · exact unreleased another earlier
      · rw [List.mem_singleton.mp last]
        exact other

theorem mem_handedOut_of_standsFor {past : List (Call ν × Answer ν)} {handle : HandleId}
    {value : ν} (stands : StandsFor past handle value) : handle ∈ handedOut past := by
  obtain ⟨early, late, rfl, _⟩ := stands
  exact List.mem_filterMap.mpr ⟨(.openWith value, .opened handle), by simp, rfl⟩

theorem opens_concat (past : List (Call ν × Answer ν)) (exchange : Call ν × Answer ν) :
    opens (past ++ [exchange]) = opens past + if exchange.1.isOpening then 1 else 0 := by
  rw [opens, List.countP_append, List.countP_singleton, opens]

theorem givenBack_concat (past : List (Call ν × Answer ν)) (exchange : Call ν × Answer ν) :
    givenBack (past ++ [exchange]) = givenBack past + if exchange.2.givesBack then 1 else 0 := by
  rw [givenBack, List.countP_append, List.countP_singleton, givenBack]

theorem handedOut_concat_of_unopened (past : List (Call ν × Answer ν))
    {exchange : Call ν × Answer ν} (unopened : exchange.2.handle? = none) :
    handedOut (past ++ [exchange]) = handedOut past := by
  have nothing : handedOut [exchange] = [] := List.filterMap_cons_none unopened
  rw [handedOut, List.filterMap_append]
  exact (congrArg _ nothing).trans (List.append_nil _)

theorem handedOut_concat_opened (past : List (Call ν × Answer ν)) (value : ν)
    (handle : HandleId) :
    handedOut (past ++ [(.openWith value, .opened handle)]) = handedOut past ++ [handle] := by
  rw [handedOut, List.filterMap_append, handedOut]
  rfl

/-! ## The invariant -/

/-- The table agrees with the past. -/
structure Kept (past : List (Call ν × Answer ν)) (table : Table ν) : Prop where
  next_eq : table.nextHandle = UInt64.ofNat (opens past + 1)
  ordered : (handedOut past).Pairwise fun earlier later => earlier.raw < later.raw
  bounded : ∀ handle ∈ handedOut past, 0 < handle.raw.toNat ∧ handle.raw.toNat ≤ opens past
  get?_iff : ∀ handle value, table.get? handle = some value ↔ StandsFor past handle value
  count_eq : table.openCount + givenBack past = opens past

theorem kept_empty : Kept ([] : List (Call ν × Answer ν)) .empty where
  next_eq := rfl
  ordered := .nil
  bounded _ none := absurd none List.not_mem_nil
  get?_iff handle value := iff_of_false nofun (not_standsFor_nil handle value)
  count_eq := rfl

section

variable {past : List (Call ν × Answer ν)} {table : Table ν}

/-- A question changes nothing. -/
theorem Kept.ask (kept : Kept past table) {exchange : Call ν × Answer ν}
    (noOpen : exchange.1.isOpening = false) (noRelease : ∀ handle, exchange.1 ≠ .release handle)
    (unopened : exchange.2.handle? = none) (keeps : exchange.2.givesBack = false) :
    Kept (past ++ [exchange]) table := by
  have same : opens (past ++ [exchange]) = opens past := by
    rw [opens_concat, noOpen]
    rfl
  have handles := handedOut_concat_of_unopened past unopened
  refine ⟨same ▸ kept.next_eq, handles ▸ kept.ordered, handles ▸ same ▸ kept.bounded, ?_, ?_⟩
  · intro handle value
    have other : exchange ≠ (.openWith value, .opened handle) := by
      rintro rfl
      cases noOpen
    rw [standsFor_concat_iff, kept.get?_iff]
    exact ⟨fun stands => .inr ⟨stands, noRelease handle⟩, fun now => (now.resolve_left other).1⟩
  · rw [same, givenBack_concat, keeps]
    exact kept.count_eq

/-- The number of the next handle is one more than the opens so far, while the numbers last. -/
theorem Kept.toNat_next (kept : Kept past table) (few : opens past + 1 < UInt64.size) :
    table.nextHandle.toNat = opens past + 1 := by
  rw [kept.next_eq, UInt64.toNat_ofNat_of_lt' few]

theorem Kept.not_handedOut (kept : Kept past table) (few : opens past + 1 < UInt64.size) :
    ⟨table.nextHandle⟩ ∉ handedOut past := by
  intro old
  have low := (kept.bounded _ old).2
  rw [kept.toNat_next few] at low
  omega

/-- The next handle was never given out, so it stands for nothing yet. -/
theorem Kept.not_standsFor_next (kept : Kept past table) (few : opens past + 1 < UInt64.size)
    (value : ν) : ¬ StandsFor past ⟨table.nextHandle⟩ value := fun stands =>
  kept.not_handedOut few (mem_handedOut_of_standsFor stands)

theorem Kept.isOpen_next (kept : Kept past table) (few : opens past + 1 < UInt64.size) :
    table.isOpen ⟨table.nextHandle⟩ = false := by
  rw [Table.isOpen_eq, Option.isSome_eq_false_iff, Option.isNone_iff_eq_none]
  apply Option.eq_none_iff_forall_ne_some.mpr
  intro value there
  exact kept.not_standsFor_next few value ((kept.get?_iff _ value).mp there)

theorem Kept.openWith (kept : Kept past table) (few : opens past + 1 < UInt64.size) (value : ν) :
    Kept (past ++ [(.openWith value, .opened (table.openWith value).1)])
      (table.openWith value).2 := by
  have new : (table.openWith value).1 = ⟨table.nextHandle⟩ := rfl
  have number := kept.toNat_next few
  have one : opens (past ++ [(.openWith value, .opened (table.openWith value).1)]) =
      opens past + 1 := opens_concat past _
  have handles := handedOut_concat_opened past value (table.openWith value).1
  have unused : ∀ other, ¬ StandsFor past (table.openWith value).1 other :=
    kept.not_standsFor_next few
  refine ⟨?_, ?_, ?_, ?_, ?_⟩
  · show table.nextHandle + 1 = _
    rw [one, kept.next_eq]
    exact (UInt64.ofNat_add _ 1).symm
  · rw [handles, List.pairwise_append]
    refine ⟨kept.ordered, List.pairwise_singleton _ _, fun earlier old later last => ?_⟩
    rw [List.mem_singleton.mp last, new, UInt64.lt_iff_toNat_lt, number]
    exact Nat.lt_succ_of_le (kept.bounded earlier old).2
  · intro handle member
    rw [handles, List.mem_append, List.mem_singleton] at member
    rw [one]
    rcases member with old | rfl
    · have bounds := kept.bounded handle old
      omega
    · rw [new, number]
      omega
  · intro handle other
    rw [Table.get?_openWith, standsFor_concat_iff]
    split
    · next same =>
      subst same
      simp [unused]
    · next different =>
      rw [kept.get?_iff]
      simp [Ne.symm different]
  · have closed : table.isOpen (table.openWith value).1 = false := kept.isOpen_next few
    have count := kept.count_eq
    rw [Table.openCount_openWith, closed, if_neg Bool.false_ne_true, one, givenBack_concat]
    show table.openCount + 1 + (givenBack past + 0) = opens past + 1
    omega

theorem Kept.release (kept : Kept past table) (released : HandleId) :
    Kept (past ++ [(.release released, .released (table.release released).1)])
      (table.release released).2 := by
  have same : opens (past ++ [(.release released, .released (table.release released).1)]) =
      opens past := opens_concat past _
  have handles : handedOut (past ++ [(.release released, .released (table.release released).1)]) =
      handedOut past := handedOut_concat_of_unopened past rfl
  refine ⟨same ▸ kept.next_eq, handles ▸ kept.ordered, handles ▸ same ▸ kept.bounded, ?_, ?_⟩
  · intro handle value
    rw [Table.get?_release, standsFor_concat_iff, ← kept.get?_iff]
    by_cases other : handle = released
    · simp [other]
    · simp [other, Ne.symm other]
  · have count := kept.count_eq
    rw [same, Table.openCount_release, givenBack_concat, Table.release_fst]
    show _ + (givenBack past + if table.isOpen released then 1 else 0) = opens past
    cases isOpen : table.isOpen released with
    | true =>
      have some := Table.openCount_pos isOpen
      simp only [if_true]
      omega
    | false => exact count

/-- Every call keeps the table in agreement with the past. -/
theorem Kept.perform (kept : Kept past table) (call : Call ν)
    (few : opens (past ++ [(call, (table.perform call).1)]) < UInt64.size) :
    Kept (past ++ [(call, (table.perform call).1)]) (table.perform call).2 := by
  cases call with
  | openWith value =>
    rw [opens_concat] at few
    exact kept.openWith few value
  | get handle => exact kept.ask rfl nofun rfl rfl
  | isOpen handle => exact kept.ask rfl nofun rfl rfl
  | release handle => exact kept.release handle

end

/-! ## The law -/

theorem opens_transcript (table : Table ν) (calls : List (Call ν)) :
    opens (Inode.transcript Table.perform table calls) = calls.countP Call.isOpening := by
  have all := Inode.map_fst_transcript Table.perform table calls
  rw [← congrArg (List.countP Call.isOpening) all, List.countP_map]
  rfl

theorem kept_run (calls : List (Call ν)) (few : calls.countP Call.isOpening < UInt64.size) :
    Kept (Inode.transcript Table.perform .empty calls)
      (Inode.performAll Table.perform .empty calls) := by
  rw [← opens_transcript .empty] at few
  -- the bound is part of what is proved along the run, since an open needs a number
  revert few
  apply Inode.transcript_induction (motive := fun past now => opens past < UInt64.size →
    Kept past now)
  · intro _
    exact kept_empty
  · intro past now call ih few
    have before : opens past < UInt64.size := by
      rw [opens_concat] at few
      omega
    exact (ih before).perform call few

/-- **A handle lives from its open to its release.** Take any run with fewer opens than there are
numbers, and as much of it as has happened. The handles that were given out grow from one open to
the next, so no two are the same, and none is zero. A handle is open exactly if an open was answered
with it and it was not released since; then it has the value of that open, and a release returns the
value. Any other release returns nothing and changes nothing. As many handles are open as there were
opens, less the releases that returned a value. -/
theorem handle_lifecycle (calls : List (Call ν))
    (few : calls.countP Call.isOpening < UInt64.size) :
    let table := Inode.performAll Table.perform .empty calls
    let past := Inode.transcript Table.perform .empty calls
    ((handedOut past).Pairwise fun earlier later => earlier.raw < later.raw) ∧
    (∀ handle ∈ handedOut past, handle.raw ≠ 0) ∧
    (∀ handle, table.isOpen handle = true ↔ ∃ value, StandsFor past handle value) ∧
    (∀ handle value, StandsFor past handle value →
      table.get? handle = some value ∧ (table.release handle).1 = some value) ∧
    (∀ handle, (∀ value, ¬ StandsFor past handle value) →
      table.get? handle = none ∧ table.release handle = (none, table)) ∧
    table.openCount + givenBack past = calls.countP Call.isOpening := by
  intro table past
  have kept : Kept past table := kept_run calls few
  refine ⟨kept.ordered, ?_, ?_, ?_, ?_, ?_⟩
  · rintro handle given zero
    have positive := (kept.bounded handle given).1
    rw [zero] at positive
    exact absurd positive (Nat.lt_irrefl 0)
  · intro handle
    simp only [Table.isOpen_eq, Option.isSome_iff_exists, kept.get?_iff]
  · intro handle value stands
    have there := (kept.get?_iff handle value).mpr stands
    exact ⟨there, there⟩
  · intro handle nothing
    have gone : table.get? handle = none := Option.eq_none_iff_forall_ne_some.mpr fun value there =>
      nothing value ((kept.get?_iff handle value).mp there)
    refine ⟨gone, Table.release_of_closed ?_⟩
    rw [Table.isOpen_eq, gone]
    rfl
  · rw [kept.count_eq, opens_transcript]

/-- Two handles are released before they are given out, and the first one again after its open. -/
theorem handle_lifecycle_released :
    let calls : List (Call Nat) := [.release ⟨1⟩, .openWith 10, .release ⟨2⟩, .openWith 20,
      .isOpen ⟨0⟩, .release ⟨1⟩, .get ⟨1⟩, .openWith 30]
    let table := Inode.performAll Table.perform .empty calls
    calls.countP Call.isOpening < UInt64.size ∧ table.get? ⟨2⟩ = some 20 ∧
      table.release ⟨1⟩ = (none, table) ∧ table.openCount = 2 := by
  intro calls table
  have few : calls.countP Call.isOpening < UInt64.size := by decide
  obtain ⟨_, _, isOpen, found, gone, count⟩ := handle_lifecycle calls few
  have second : StandsFor (Inode.transcript Table.perform .empty calls) ⟨2⟩ 20 :=
    ⟨[(.release ⟨1⟩, .released none), (.openWith 10, .opened ⟨1⟩), (.release ⟨2⟩, .released none)],
      [(.isOpen ⟨0⟩, .told false), (.release ⟨1⟩, .released (some 10)), (.get ⟨1⟩, .got none),
        (.openWith 30, .opened ⟨3⟩)], by decide, by decide⟩
  have closed : table.isOpen ⟨1⟩ = false := by decide
  refine ⟨few, (found ⟨2⟩ 20 second).1, (gone ⟨1⟩ fun value stands => ?_).2, ?_⟩
  · have contrary := (isOpen ⟨1⟩).mpr ⟨value, stands⟩
    exact absurd (closed.symm.trans contrary) Bool.false_ne_true
  · have opened : calls.countP Call.isOpening = 3 := by decide
    have returned : givenBack (Inode.transcript Table.perform .empty calls) = 1 := by decide
    rw [opened, returned] at count
    exact Nat.succ.inj count

end UserFs.Handle
