import Mathlib.Data.List.Induction
import UserFs.Proofs.Inode.Representation
import UserFs.Proofs.TreeFs.Books

/-!
# What a kernel that keeps its books is promised

* **at every point** — what the kernel holds of an ID is what is counted (`Booked.isValid_iff`,
  `Booked.lookupCount?`), and no fair request is refused because an ID is not live
  (`Booked.not_saysNotLive`);
* **all along** — an ID that the kernel goes on holding stays what it was (`kept_while_usable`);
* **what for** — an ID is given for the node that a lookup is about (`GivenFor`) and held for it
  as long as the kernel can use it (`HeldFor`): no ID for two nodes and no node under two IDs
  (`HeldFor.agree`);
* **the promise** — `books_honoured` puts this together for every run.

One thing the books do not rule out, and it is logged as a mistake all the same: to give back
no lookups at all of an ID that is not held (`not_all_forgets_known`).
-/

namespace UserFs.TreeFs

variable {past : List (Action × Shown)} {fs after : TreeFs} {action : Action} {shown : Shown}

/-! ## What the books say of the state -/

theorem Booked.isValid_iff (booked : Booked past fs) {id : InodeId} (notRoot : id ≠ .root) :
    fs.isValid id = true ↔ 0 < held id past := by
  have counts := booked.counts id notRoot
  rw [isValid, Inode.Table.isValid_of_ne_root notRoot]
  cases found : fs.inodes.record? id with
  | none =>
    rw [(Inode.Table.counts_of_none found).mp counts]
    exact ⟨fun no => absurd no Bool.false_ne_true, fun no => absurd no (Nat.lt_irrefl 0)⟩
  | some record => exact ⟨fun _ => ((Inode.Table.counts_of_some found).mp counts).2, fun _ => rfl⟩

theorem Booked.isValid_of_usable (booked : Booked past fs) {id : InodeId}
    (usable : Usable past id) : fs.isValid id = true := by
  by_cases isRoot : id = .root
  · rw [isRoot]
    rfl
  · exact (booked.isValid_iff isRoot).mpr (usable.resolve_left isRoot)

theorem Booked.lookupCount? (booked : Booked past fs) {id : InodeId} (notRoot : id ≠ .root) :
    (fs.inodes.lookupCount? id).map UInt64.toNat =
      if held id past = 0 then none else some (held id past) := by
  have counts := booked.counts id notRoot
  rw [Inode.Table.lookupCount?]
  cases found : fs.inodes.record? id with
  | none =>
    rw [(Inode.Table.counts_of_none found).mp counts]
    rfl
  | some record =>
    obtain ⟨total, positive⟩ := (Inode.Table.counts_of_some found).mp counts
    rw [if_neg (Nat.ne_of_gt positive), ← total]
    rfl

/-- Nothing is held but the root exactly if no inode besides it is live. -/
theorem Booked.liveInodes (booked : Booked past fs)
    (nothing : ∀ id, id ≠ .root → held id past = 0) : fs.liveInodes = 0 := by
  obtain ⟨ids, valid, card⟩ := booked.wf.exists_validIds
  rw [TreeFs.liveInodes, ← card, Finset.card_eq_zero]
  refine Finset.eq_empty_of_forall_notMem fun id member => ?_
  obtain ⟨isValid, notRoot⟩ := (valid id).mp member
  have positive := (booked.isValid_iff notRoot).mp isValid
  rw [nothing id notRoot] at positive
  cases positive

/-! ## What a fair action shows -/

/-- A fair request is not refused because an ID is not live. -/
theorem Booked.not_saysNotLive (booked : Booked past fs) (route : Route) (context : Context)
    (query : Query) (fair : (Action.query route context query).Fair past) :
    ¬ (TreeFs.act ⟨fs, .serving⟩ (.query route context query)).1.SaysNotLive query.asked
      context.info := by
  cases query with
  | lookup request =>
    have valid := booked.isValid_of_usable (show Usable past request.parent from fair)
    rw [← route.parent_received request] at valid
    rw [act_lookup]
    exact not_saysNotLive_ofResult (lookup_ne_notLive valid _) _ _ _ _ _
  | forget request =>
    rw [act_forget]
    exact fun refused => Bool.false_ne_true refused.1
  | openDir request =>
    have valid := booked.isValid_of_usable (show Usable past request.inode from fair)
    rw [act_openDir]
    exact not_saysNotLive_ofResult (openDir_ne_notLive valid) _ _ _ _ _
  | releaseDir inode request =>
    rw [act_releaseDir]
    exact fun refused => Bool.false_ne_true refused.1

/-- A fair forget takes back no more than is there, and finds the ID live unless it is about
none of its lookups. -/
theorem Booked.forget_fst (booked : Booked past fs) {request : ForgetRequest}
    (fair : request.inode ≠ .root → request.count.toNat ≤ held request.inode past) :
    (∀ issued forgotten, (fs.forget request).1 ≠ .overForgotten issued forgotten) ∧
    ((fs.forget request).1 = .unknown → request.count = 0 ∧ held request.inode past = 0) := by
  have step := fs.inodes.step_forget request.inode request.count
  have told : (fs.inodes.call (.forget request.inode request.count)).1 =
      .forgot request.inode request.count (fs.forget request).1 := rfl
  rw [told] at step
  generalize (fs.forget request).1 = outcome at step ⊢
  obtain ⟨inode, count⟩ := request
  dsimp only at step fair ⊢
  generalize (fs.inodes.call (.forget inode count)).2 = after at step
  cases step with
  | pinned => exact ⟨nofun, nofun⟩
  | unknown notRoot dead =>
    have none := (Inode.Table.counts_of_none dead).mp (booked.counts inode notRoot)
    have few := fair notRoot
    rw [none] at few
    exact ⟨nofun, fun _ => ⟨UInt64.toNat_inj.mp (Nat.le_zero.mp few), none⟩⟩
  | remaining => exact ⟨nofun, nofun⟩
  | @retired _ _ record _ live all =>
    have notRoot := Inode.Table.ne_root_of_record? live
    obtain ⟨total, _⟩ := (Inode.Table.counts_of_some live).mp (booked.counts inode notRoot)
    have most : ¬ record.lookups < count := by
      rw [UInt64.lt_iff_toNat_lt]
      exact Nat.not_lt.mpr (total ▸ fair notRoot)
    rw [if_neg most]
    exact ⟨nofun, nofun⟩

/-! ## What IDs are given for -/

/-- An action is a lookup that is answered with an incarnation, and this is the node that the
lookup is about: what the name means in the directory that the ID of the parent stands for. -/
inductive GivenFor (session : Session TreeFs) (incarnation : Incarnation) (target : NodeKey) :
    Action → Prop
  | lookup {route : Route} {context : Context} {request : LookupRequest} {key : NodeKey}
      {node : Node} {attributes : Attributes}
      (answered : (act session (.query route context (.lookup request))).1.found? =
        some incarnation)
      (parent : session.state.HasNode request.parent key node)
      (directory : node.attributes.isDirectory = true)
      (means : Means key node (route.received request).name target)
      (resolved : session.state.resolveName (route.received request) = .ok (target, attributes)) :
      GivenFor session incarnation target (.query route context (.lookup request))

/-- Whatever is answered with an incarnation is a lookup of a node. -/
theorem exists_givenFor {incarnation : Incarnation}
    (found : (act ⟨fs, .serving⟩ action).1.found? = some incarnation) :
    ∃ target, GivenFor ⟨fs, .serving⟩ incarnation target action := by
  cases action with
  | resize path size => cases found
  | query route context query =>
    cases query with
    | lookup request =>
      cases resolved : fs.resolveName (route.received request) with
      | error refusal =>
        rw [act_lookup, lookup_of_error resolved] at found
        cases route <;> cases found
      | ok pair =>
        obtain ⟨target, attributes⟩ := pair
        obtain ⟨key, node, has, directory, means, _⟩ := means_of_resolveName resolved
        rw [route.parent_received] at has
        exact ⟨target, .lookup found has directory means resolved⟩
    | forget request =>
      rw [act_forget] at found
      cases found
    | openDir request =>
      rw [act_openDir] at found
      cases opened : (fs.openDir request).1 with
      | ok handle =>
        rw [opened] at found
        cases found
      | error refusal =>
        rw [opened] at found
        cases route <;> cases found
    | releaseDir inode request =>
      rw [act_releaseDir] at found
      cases found

/-- What a lookup was answered with is the current incarnation of the ID, and the ID stands for
the node that was looked up. -/
theorem GivenFor.known {incarnation : Incarnation} {target : NodeKey} (wf : fs.inodes.Wf)
    (given : GivenFor ⟨fs, .serving⟩ incarnation target action) :
    let after := (act ⟨fs, .serving⟩ action).2.state
    after.inodes.resolve? incarnation.id = some target ∧
      after.generation? incarnation.id = some incarnation.generation := by
  cases given with
  | @lookup route _ _ _ _ _ answered _ _ _ resolved =>
    rw [act_lookup, lookup_of_ok resolved] at answered ⊢
    dsimp only at answered ⊢
    cases looked : (fs.inodes.lookup target).1 with
    | none =>
      rw [looked] at answered
      cases route <;> cases answered
    | some found =>
      rw [looked] at answered
      cases answered
      exact wf.resolve?_of_lookup looked

/-! ## The records of forgets -/

/-- The two warnings about a forget do not read alike. -/
theorem forgetRecord_unknown_ne (inode : InodeId) (issued forgotten : UInt64) :
    forgetRecord inode .unknown ≠ forgetRecord inode (.overForgotten issued forgotten) := by
  intro same
  have texts := (LogRecord.mk.inj same).2
  -- the one ends with `live`, the other one with `retired`
  have ends := congrArg (fun text => text.toList.getLast?) texts
  simp [List.getLast?_append, List.getLast?_cons] at ends

theorem eq_unknown_of_forgetRecord {inode : InodeId} {outcome : Inode.ForgetOutcome}
    (same : forgetRecord inode .unknown = forgetRecord inode outcome) : outcome = .unknown := by
  cases outcome with
  | unknown => rfl
  | overForgotten issued forgotten =>
    exact absurd same (forgetRecord_unknown_ne inode issued forgotten)
  | _ => cases (LogRecord.mk.inj same).1

theorem eq_overForgotten_of_forgetRecord {inode : InodeId} {outcome : Inode.ForgetOutcome}
    {issued forgotten : UInt64}
    (same : forgetRecord inode (.overForgotten issued forgotten) = forgetRecord inode outcome) :
    ∃ issued forgotten, outcome = .overForgotten issued forgotten := by
  cases outcome with
  | unknown => exact absurd same.symm (forgetRecord_unknown_ne inode issued forgotten)
  | overForgotten issued forgotten => exact ⟨issued, forgotten, rfl⟩
  | _ => cases (LogRecord.mk.inj same).1

/-- What is logged of a fair forget: no more was given back than there was, and the ID was
live, unless no lookup was given back of an ID that is not held. -/
theorem Booked.log_forget (booked : Booked past fs) (route : Route) (context : Context)
    {request : ForgetRequest}
    (fair : (Action.query route context (.forget request)).Fair past) :
    let shown := (TreeFs.act ⟨fs, .serving⟩ (.query route context (.forget request))).1
    (∀ issued forgotten,
      forgetRecord request.inode (.overForgotten issued forgotten) ∉ shown.log) ∧
    (forgetRecord request.inode .unknown ∈ shown.log →
      request.count = 0 ∧ held request.inode past = 0) := by
  intro shown
  obtain ⟨notOver, unknown⟩ := booked.forget_fst fair
  have log : shown.log = [forgetRecord request.inode (fs.forget request).1] :=
    congrArg (fun result => result.1.log) (act_forget fs route context request)
  rw [log]
  constructor
  · intro issued forgotten logged
    obtain ⟨most, more, same⟩ := eq_overForgotten_of_forgetRecord (List.mem_singleton.mp logged)
    exact notOver most more same
  · intro logged
    exact unknown (eq_unknown_of_forgetRecord (List.mem_singleton.mp logged))

/-! ## Runs -/

/-- A session of the filesystem of a tree, once the kernel has established it. -/
def established (tree : Tree) (policy : CachePolicy) (config : Inode.TableConfig)
    (hash : NodeKey → UInt64) (context : Context) (repliedAt : Instant) : Session TreeFs :=
  ((Session.start (ofTree tree policy config hash)).serve handler.operations
    ⟨context, repliedAt, .init⟩).2

theorem countP_history (session : Session TreeFs) (actions : List Action) :
    (history session actions).countP (fun exchange => exchange.1.isLookup) =
      actions.countP Action.isLookup := by
  induction actions generalizing session with
  | nil => rfl
  | cons action rest ih => rw [history, List.countP_cons, List.countP_cons, ih]

section

variable {start : TreeFs} {actions : List Action}

theorem KeepsBooks.of_prefix {session : Session TreeFs} {early : List Action}
    (keeps : KeepsBooks session actions) (first : early <+: actions) : KeepsBooks session early :=
  fun before action there => keeps before action (there.trans first)

/-- The books are right after every run of a kernel that keeps them. -/
theorem booked_run (booked : Booked [] start) (keeps : KeepsBooks ⟨start, .serving⟩ actions)
    (few : actions.countP Action.isLookup < UInt64.size) :
    ∃ fs, run ⟨start, .serving⟩ actions = ⟨fs, .serving⟩ ∧
      Booked (history ⟨start, .serving⟩ actions) fs := by
  induction actions using List.reverseRecOn with
  | nil => exact ⟨start, rfl, booked⟩
  | append_singleton before action ih =>
    have total := countP_history ⟨start, .serving⟩ (before ++ [action])
    have fewer : before.countP Action.isLookup < UInt64.size := by
      rw [List.countP_append] at few
      omega
    obtain ⟨fs, arrived, books⟩ := ih (keeps.of_prefix (List.prefix_append _ _)) fewer
    obtain ⟨shown, after, acted, moved⟩ := act_moved fs action
    have shows : history ⟨start, .serving⟩ (before ++ [action]) =
        history ⟨start, .serving⟩ before ++ [(action, shown)] := by
      rw [history_concat, arrived, acted]
    refine ⟨after, ?_, ?_⟩
    · rw [run_concat, arrived, acted]
    · rw [← total, shows] at few
      rw [shows]
      exact books.act moved (keeps before action List.prefix_rfl) few

/-- The books are right at every point of such a run. -/
theorem booked_at (booked : Booked [] start) (keeps : KeepsBooks ⟨start, .serving⟩ actions)
    (few : actions.countP Action.isLookup < UInt64.size) {early : List Action}
    (first : early <+: actions) :
    ∃ fs, run ⟨start, .serving⟩ early = ⟨fs, .serving⟩ ∧
      Booked (history ⟨start, .serving⟩ early) fs :=
  booked_run booked (keeps.of_prefix first) (Nat.lt_of_le_of_lt first.sublist.countP_le few)

/-- An ID that the kernel may use all along keeps its generation and its node. -/
theorem kept_while_usable (booked : Booked [] start) {early late : List Action} {id : InodeId}
    (keeps : KeepsBooks ⟨start, .serving⟩ (early ++ late))
    (few : (early ++ late).countP Action.isLookup < UInt64.size)
    (usable : ∀ middle, middle <+: late → Usable (history ⟨start, .serving⟩ (early ++ middle)) id) :
    (run ⟨start, .serving⟩ (early ++ late)).state.generation? id =
        (run ⟨start, .serving⟩ early).state.generation? id ∧
      (run ⟨start, .serving⟩ (early ++ late)).state.inodes.resolve? id =
        (run ⟨start, .serving⟩ early).state.inodes.resolve? id := by
  induction late using List.reverseRecOn with
  | nil =>
    rw [List.append_nil]
    exact ⟨rfl, rfl⟩
  | append_singleton before action ih =>
    rw [← List.append_assoc] at keeps few ⊢
    have first : early ++ before <+: early ++ before ++ [action] := List.prefix_append _ _
    have fewer : (early ++ before).countP Action.isLookup < UInt64.size :=
      Nat.lt_of_le_of_lt first.sublist.countP_le few
    obtain ⟨sameGeneration, sameKey⟩ := ih (keeps.of_prefix first) fewer fun middle there =>
      usable middle (there.trans (List.prefix_append _ _))
    obtain ⟨fs, arrived, books⟩ := booked_at booked keeps few first
    obtain ⟨after, left, booksAfter⟩ := booked_run booked keeps few
    obtain ⟨shown, next, acted, moved⟩ := act_moved fs action
    -- the books are right on both sides of the last action, which therefore keeps the ID
    have stepped : run ⟨start, .serving⟩ (early ++ before ++ [action]) = ⟨next, .serving⟩ := by
      rw [run_concat, arrived, acted]
    obtain rfl : after = next := congrArg Session.state (left.symm.trans stepped)
    have valid := books.isValid_of_usable (usable before (List.prefix_append _ _))
    have still := booksAfter.isValid_of_usable
      (by rw [List.append_assoc]; exact usable _ List.prefix_rfl)
    rw [arrived] at sameGeneration sameKey
    rw [left, ← sameGeneration, ← sameKey]
    exact moved.keeps books.wf valid still

/-! ## What IDs are held for -/

/-- The kernel holds an ID for a node: a lookup of the node was answered with it, and it could be
used ever since. -/
def HeldFor (session : Session TreeFs) (actions : List Action) (incarnation : Incarnation)
    (target : NodeKey) : Prop :=
  ∃ early action late, actions = early ++ [action] ++ late ∧
    GivenFor (run session early) incarnation target action ∧
    ∀ middle, middle <+: late →
      Usable (history session (early ++ [action] ++ middle)) incarnation.id

/-- What a lookup is answered with is held for its node from then on. -/
theorem GivenFor.heldFor {before : List Action} {incarnation : Incarnation} {target : NodeKey}
    (booked : Booked [] start) (keeps : KeepsBooks ⟨start, .serving⟩ actions)
    (few : actions.countP Action.isLookup < UInt64.size) (first : before <+: actions)
    (given : GivenFor (run ⟨start, .serving⟩ before) incarnation target action) :
    HeldFor ⟨start, .serving⟩ (before ++ [action]) incarnation target := by
  refine ⟨before, action, [], (List.append_nil _).symm, given, fun middle there => ?_⟩
  rw [List.prefix_nil.mp there, List.append_nil]
  by_cases isRoot : incarnation.id = .root
  · exact .inl isRoot
  · obtain ⟨fs, _, books⟩ := booked_at booked keeps few first
    cases given with
    | lookup answered =>
      -- the answer counts, and a lookup gives nothing back
      right
      rw [history_concat, held_concat (books.covered _ isRoot), Shown.finds, answered,
        Option.any_some, decide_eq_true rfl, if_pos rfl]
      exact Nat.succ_pos _

/-- Every ID that is held was given for a node, and is held for it. -/
theorem exists_heldFor (booked : Booked [] start) {id : InodeId} (notRoot : id ≠ .root)
    (keeps : KeepsBooks ⟨start, .serving⟩ actions)
    (few : actions.countP Action.isLookup < UInt64.size)
    (holds : 0 < held id (history ⟨start, .serving⟩ actions)) :
    ∃ incarnation target, incarnation.id = id ∧
      HeldFor ⟨start, .serving⟩ actions incarnation target := by
  induction actions using List.reverseRecOn with
  | nil => cases holds
  | append_singleton before action ih =>
    have first : before <+: before ++ [action] := List.prefix_append _ _
    have fewer := Nat.lt_of_le_of_lt first.sublist.countP_le few
    rcases Nat.eq_zero_or_pos (held id (history ⟨start, .serving⟩ before)) with none | already
    · -- what was not held before was given by the last action
      obtain ⟨fs, arrived, books⟩ := booked_at booked keeps few first
      rw [history_concat, held_concat (books.covered id notRoot), none, arrived] at holds
      cases finds : (act ⟨fs, .serving⟩ action).1.finds id with
      | false =>
        rw [finds, if_neg Bool.false_ne_true, Nat.zero_add, Nat.zero_sub] at holds
        cases holds
      | true =>
        obtain ⟨incarnation, found, same⟩ := (Option.any_eq_true _ _).mp finds
        obtain ⟨target, given⟩ := exists_givenFor found
        rw [← arrived] at given
        exact ⟨incarnation, target, of_decide_eq_true same, given.heldFor booked keeps few first⟩
    · obtain ⟨incarnation, target, same, early, giving, late, rfl, given, usable⟩ :=
        ih (keeps.of_prefix first) fewer already
      refine ⟨incarnation, target, same, early, giving, late ++ [action],
        List.append_assoc _ _ _, given, fun middle there => ?_⟩
      rcases List.prefix_concat_iff.mp there with rfl | inside
      · rw [same, ← List.append_assoc]
        exact .inr holds
      · exact usable middle inside

/-- An ID stands for the node that it is held for, in the generation in which it was given. -/
theorem HeldFor.known {incarnation : Incarnation} {target : NodeKey} (booked : Booked [] start)
    (keeps : KeepsBooks ⟨start, .serving⟩ actions)
    (few : actions.countP Action.isLookup < UInt64.size)
    (holds : HeldFor ⟨start, .serving⟩ actions incarnation target) :
    (run ⟨start, .serving⟩ actions).state.inodes.resolve? incarnation.id = some target ∧
      (run ⟨start, .serving⟩ actions).state.generation? incarnation.id =
        some incarnation.generation := by
  obtain ⟨early, action, late, rfl, given, usable⟩ := holds
  obtain ⟨sameGeneration, sameKey⟩ := kept_while_usable booked keeps few usable
  have first : early <+: early ++ [action] ++ late :=
    (List.prefix_append _ _).trans (List.prefix_append _ _)
  obtain ⟨fs, arrived, books⟩ := booked_at booked keeps few first
  rw [arrived] at given
  rw [sameGeneration, sameKey, run_concat, arrived]
  exact given.known books.wf

/-- No ID is held for two nodes, and no node under two IDs. -/
theorem HeldFor.agree {one two : Incarnation} {here there : NodeKey} (booked : Booked [] start)
    (keeps : KeepsBooks ⟨start, .serving⟩ actions)
    (few : actions.countP Action.isLookup < UInt64.size)
    (first : HeldFor ⟨start, .serving⟩ actions one here)
    (second : HeldFor ⟨start, .serving⟩ actions two there) :
    (one.id = two.id → here = there) ∧ (here = there → one = two) := by
  obtain ⟨fs, arrived, books⟩ := booked_run booked keeps few
  obtain ⟨oneKey, oneGeneration⟩ := first.known booked keeps few
  obtain ⟨twoKey, twoGeneration⟩ := second.known booked keeps few
  rw [arrived] at oneKey oneGeneration twoKey twoGeneration
  constructor
  · intro same
    rw [same, twoKey] at oneKey
    exact (Option.some.inj oneKey).symm
  · rintro rfl
    have same := books.wf.resolve?_injective oneKey twoKey
    rw [same, twoGeneration] at oneGeneration
    cases one
    cases two
    cases same
    cases oneGeneration
    rfl

/-! ## The promise -/

/-- **The books are honoured.** In every session in which the kernel keeps its books, by
either route and with fewer than `2 ^ 64` lookups, an ID other than the root's is valid as
long as the kernel holds it, and as many lookups of it are counted as the kernel holds; an ID
that goes on being held keeps its generation and its node. A lookup that is answered is about
what its name means in its parent, and from then on the ID of the answer stands for that node,
in the generation of the answer; each ID that is held was given for a node of the tree in that
way, and stands for it. No two nodes are held under one ID, and no node has two IDs. No request
is refused because an ID is not live, and a forget never takes back more than there was; it
finds its ID live unless it takes back nothing of what is not held. When nothing but the root is
held, no other inode is live. -/
theorem books_honoured (tree : Tree) (policy : CachePolicy) (config : Inode.TableConfig)
    (hash : NodeKey → UInt64) (context : Context) (repliedAt : Instant) (actions : List Action)
    (keeps : KeepsBooks (established tree policy config hash context repliedAt) actions)
    (few : actions.countP Action.isLookup < UInt64.size) :
    let session := established tree policy config hash context repliedAt
    let fs := (run session actions).state
    let past := history session actions
    (∀ id, id ≠ .root → (fs.isValid id = true ↔ 0 < held id past) ∧
      (fs.inodes.lookupCount? id).map UInt64.toNat =
        if held id past = 0 then none else some (held id past)) ∧
    (∀ early late id, actions = early ++ late →
      (∀ middle, middle <+: late → Usable (history session (early ++ middle)) id) →
      fs.generation? id = (run session early).state.generation? id ∧
        fs.inodes.resolve? id = (run session early).state.inodes.resolve? id) ∧
    (∀ id, id ≠ .root → 0 < held id past →
      ∃ incarnation target, incarnation.id = id ∧ HeldFor session actions incarnation target ∧
        fs.inodes.resolve? id = some target ∧ (fs.tree.node? target).isSome) ∧
    (∀ incarnation target, HeldFor session actions incarnation target →
      fs.inodes.resolve? incarnation.id = some target ∧
        fs.generation? incarnation.id = some incarnation.generation) ∧
    (∀ one two here there, HeldFor session actions one here → HeldFor session actions two there →
      (one.id = two.id → here = there) ∧ (here = there → one = two)) ∧
    (∀ first second, Usable past first → Usable past second → first ≠ second →
      fs.inodes.resolve? first ≠ fs.inodes.resolve? second) ∧
    (∀ before route request query, before ++ [.query route request query] <+: actions →
      let result := act (run session before) (.query route request query)
      ¬ result.1.SaysNotLive query.asked request.info ∧
      (∀ incarnation, result.1.found? = some incarnation →
        ∃ target, GivenFor (run session before) incarnation target (.query route request query) ∧
          HeldFor session (before ++ [.query route request query]) incarnation target ∧
          result.2.state.inodes.resolve? incarnation.id = some target ∧
          result.2.state.generation? incarnation.id = some incarnation.generation) ∧
      ∀ taken, query = .forget taken →
        (∀ issued forgotten,
          forgetRecord taken.inode (.overForgotten issued forgotten) ∉ result.1.log) ∧
        (forgetRecord taken.inode .unknown ∈ result.1.log →
          taken.count = 0 ∧ held taken.inode (history session before) = 0)) ∧
    ((∀ id, id ≠ .root → held id past = 0) → fs.liveInodes = 0) := by
  intro session fs past
  -- what the kernel has established is the filesystem itself, being served
  have booked := booked_start tree policy config hash
  obtain ⟨now, arrived, books⟩ := booked_run booked keeps few
  obtain rfl : fs = now := congrArg Session.state arrived
  refine ⟨fun id notRoot => ⟨books.isValid_iff notRoot, books.lookupCount? notRoot⟩, ?_, ?_,
    fun _ _ holds => holds.known booked keeps few,
    fun _ _ _ _ first second => first.agree booked keeps few second, ?_, ?_, books.liveInodes⟩
  · rintro early late id rfl usable
    exact kept_while_usable booked keeps few usable
  · intro id notRoot holds
    obtain ⟨incarnation, target, rfl, heldFor⟩ := exists_heldFor booked notRoot keeps few holds
    have known : fs.inodes.resolve? incarnation.id = some target :=
      (heldFor.known booked keeps few).1
    refine ⟨incarnation, target, rfl, heldFor, known, ?_⟩
    rw [Inode.Table.resolve?_of_ne_root notRoot] at known
    obtain ⟨record, live, rfl⟩ := Option.map_eq_some_iff.mp known
    exact books.inTree incarnation.id record live
  · intro first second firstUsable secondUsable different same
    obtain ⟨key, known⟩ :=
      Inode.Table.exists_resolve?_of_isValid (books.isValid_of_usable firstUsable)
    exact different (books.wf.resolve?_injective known (same ▸ known))
  · intro before route request query first result
    have early : before <+: actions := (List.prefix_append _ _).trans first
    obtain ⟨current, reached, booksThen⟩ := booked_at booked keeps few early
    have fair := keeps before _ first
    have acted : result = act ⟨current, .serving⟩ (.query route request query) :=
      congrArg (act · _) reached
    have state : run session before = ⟨current, .serving⟩ := reached
    rw [acted, state]
    refine ⟨booksThen.not_saysNotLive route request query fair, fun incarnation found => ?_, ?_⟩
    · obtain ⟨target, given⟩ := exists_givenFor found
      have holds := GivenFor.heldFor booked keeps few early (state ▸ given)
      exact ⟨target, given, holds, given.known booksThen.wf⟩
    · rintro taken rfl
      exact booksThen.log_forget route request fair

end

/-- A kernel looks a directory up in a session, opens it by a call, looks up a file in it, and
gives the file back. -/
def visit : List Action :=
  let context : Context := ⟨⟨1, 0, 0, 0⟩, .epoch⟩
  [.query (.session .epoch) context (.lookup ⟨.root, .ofString "a"⟩),
    .query .direct context (.openDir ⟨⟨2⟩, .readOnly⟩),
    .query .direct context (.lookup ⟨⟨2⟩, .ofString "b"⟩),
    .resize "a/b" 7,
    .query (.session .epoch) context (.forget ⟨⟨3⟩, 1⟩)]

theorem books_honoured_visit :
    let session := established (Tree.rootOnly.addAll [.file "a/b" 5]).2 .disabled ⟨1, true⟩
      (fun _ => 0) ⟨⟨1, 0, 0, 0⟩, .epoch⟩ .epoch
    KeepsBooks session visit ∧ visit.countP Action.isLookup < UInt64.size ∧
    (run session visit).state.isValid ⟨2⟩ = true ∧
    (run session visit).state.isValid ⟨3⟩ = false ∧
    ∃ incarnation, incarnation.id = ⟨2⟩ ∧ HeldFor session visit incarnation ⟨1⟩ := by
  intro session
  have keeps : KeepsBooks session visit := by decide
  have few : visit.countP Action.isLookup < UInt64.size := by decide
  obtain ⟨valid, _, holds, _⟩ := books_honoured (Tree.rootOnly.addAll [.file "a/b" 5]).2
    .disabled ⟨1, true⟩ (fun _ => 0) ⟨⟨1, 0, 0, 0⟩, .epoch⟩ .epoch visit keeps few
  have directory : 0 < held ⟨2⟩ (history session visit) := by decide
  have file : ¬ 0 < held ⟨3⟩ (history session visit) := by decide
  refine ⟨keeps, few, (valid ⟨2⟩ (by decide)).1.mpr directory, ?_, ?_⟩
  · rw [← Bool.not_eq_true]
    exact fun isValid => file ((valid ⟨3⟩ (by decide)).1.mp isValid)
  · obtain ⟨incarnation, target, same, heldFor, known, _⟩ := holds ⟨2⟩ (by decide) directory
    have node : target = ⟨1⟩ := by
      rw [← Option.some_inj, ← known]
      decide
    exact ⟨incarnation, same, node ▸ heldFor⟩

/-- A forget of no lookups is fair even for an ID that the kernel never held, and then it is
logged that the ID is not live. -/
theorem not_all_forgets_known : ¬ ∀ (additions : List Addition) (policy : CachePolicy)
    (config : Inode.TableConfig) (hash : NodeKey → UInt64) (context : Context)
    (repliedAt : Instant) (actions : List Action),
    let session := established (Tree.rootOnly.addAll additions).2 policy config hash context
      repliedAt
    KeepsBooks session actions → actions.countP Action.isLookup < UInt64.size →
    ∀ before route request taken,
      before ++ [.query route request (.forget taken)] <+: actions →
      forgetRecord taken.inode .unknown ∉
        (act (run session before) (.query route request (.forget taken))).1.log := by
  intro known
  let context : Context := ⟨⟨1, 0, 0, 0⟩, .epoch⟩
  let action : Action := .query .direct context (.forget ⟨⟨42⟩, 0⟩)
  have keeps : KeepsBooks (established (Tree.rootOnly.addAll []).2 .disabled ⟨1, true⟩ (fun _ => 0)
      context .epoch) [action] := by decide
  refine known [] .disabled ⟨1, true⟩ (fun _ => 0) context .epoch [action] keeps (by decide) []
    .direct context ⟨⟨42⟩, 0⟩ List.prefix_rfl ?_
  decide

end UserFs.TreeFs
