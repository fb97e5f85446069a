import UserFs.Proofs.Inode.Run
import UserFs.Proofs.TreeFs.Routes

/-!
# A kernel that keeps its books

The kernel counts for each ID the lookups that were answered with it and those it has given
back; the difference is what it holds. It keeps its books if it looks only in directories
that it holds, opens only those, and never gives back more than it holds.

Then what the kernel holds of an ID is what the inode table counts for it, and the node of each
live ID is in the tree: `Booked` says so, and every action keeps it (`Booked.act`). For that an
action needs to be known only as far as the books are concerned (`Moved`): it leaves the inode
table alone or makes one call of it, whichever route it takes (`act_moved`).
-/

namespace UserFs.TreeFs

/-! ## The books -/

/-- Whether an action is a lookup. -/
def Action.isLookup : Action → Bool
  | .query _ _ (.lookup _) => true
  | _ => false

/-- How many lookups of an ID the action gives back. -/
def Action.givesBack (id : InodeId) : Action → Nat
  | .query _ _ (.forget request) => if request.inode = id then request.count.toNat else 0
  | _ => 0

/-- Whether an action was answered with the ID. -/
def Shown.finds (id : InodeId) (shown : Shown) : Bool := shown.found?.any fun found => found.id = id

/-- How many lookups were answered with an ID. -/
def answered (id : InodeId) (past : List (Action × Shown)) : Nat :=
  past.countP fun exchange => exchange.2.finds id

/-- How many lookups of an ID were given back. -/
def givenBack (id : InodeId) : List (Action × Shown) → Nat
  | [] => 0
  | exchange :: rest => exchange.1.givesBack id + givenBack id rest

/-- How many lookups of an ID the kernel holds. -/
def held (id : InodeId) (past : List (Action × Shown)) : Nat := answered id past - givenBack id past

/-- Whether the kernel may use an ID: it is the root's, or the kernel holds it. -/
def Usable (past : List (Action × Shown)) (id : InodeId) : Prop := id = .root ∨ 0 < held id past

/-- Whether a kernel that keeps its books may let an action happen. -/
def Action.Fair (past : List (Action × Shown)) : Action → Prop
  | .query _ _ (.lookup request) => Usable past request.parent
  | .query _ _ (.forget request) =>
    request.inode ≠ .root → request.count.toNat ≤ held request.inode past
  | .query _ _ (.openDir request) => Usable past request.inode
  | .query _ _ (.releaseDir _ _) | .resize _ _ => True

/-- Whether the kernel keeps its books all along. -/
def KeepsBooks (session : Session TreeFs) (actions : List Action) : Prop :=
  ∀ before action, before ++ [action] <+: actions → action.Fair (history session before)

instance (past : List (Action × Shown)) (id : InodeId) : Decidable (Usable past id) :=
  inferInstanceAs (Decidable (id = .root ∨ 0 < held id past))

instance (past : List (Action × Shown)) : (action : Action) → Decidable (action.Fair past)
  | .query _ _ (.lookup request) => inferInstanceAs (Decidable (Usable past request.parent))
  | .query _ _ (.forget request) => inferInstanceAs
      (Decidable (request.inode ≠ .root → request.count.toNat ≤ held request.inode past))
  | .query _ _ (.openDir request) => inferInstanceAs (Decidable (Usable past request.inode))
  | .query _ _ (.releaseDir _ _) | .resize _ _ => isTrue trivial

theorem keepsBooks_iff {session : Session TreeFs} {actions : List Action} :
    KeepsBooks session actions ↔ ∀ index : Fin actions.length,
      actions[index].Fair (history session (actions.take index)) := by
  constructor
  · intro keeps index
    refine keeps _ _ ?_
    rw [Fin.getElem_fin, List.take_append_getElem index.isLt]
    exact List.take_prefix _ _
  · rintro fair before action ⟨rest, rfl⟩
    have here := fair ⟨before.length, by simp⟩
    simpa using here

instance (session : Session TreeFs) (actions : List Action) :
    Decidable (KeepsBooks session actions) :=
  decidable_of_iff _ keepsBooks_iff.symm

theorem answered_concat (id : InodeId) (past : List (Action × Shown)) (action : Action)
    (shown : Shown) : answered id (past ++ [(action, shown)]) =
      answered id past + if shown.finds id then 1 else 0 := by
  rw [answered, List.countP_append, List.countP_singleton, answered]

theorem givenBack_concat (id : InodeId) (past : List (Action × Shown)) (action : Action)
    (shown : Shown) : givenBack id (past ++ [(action, shown)]) =
      givenBack id past + action.givesBack id := by
  induction past with
  | nil => exact (Nat.add_zero _).trans (Nat.zero_add _).symm
  | cons first rest ih => rw [List.cons_append, givenBack, givenBack, ih, Nat.add_assoc]

/-! ## What an action does to the table and the tree -/

/-- What an action shows and does, as far as the books are concerned. -/
inductive Moved (fs : TreeFs) (action : Action) (shown : Shown) (after : TreeFs) : Prop
  /-- The inode table is left alone, and no node goes away. -/
  | quiet (inodes : after.inodes = fs.inodes)
      (nodes : ∀ key, (after.tree.node? key).isSome = (fs.tree.node? key).isSome)
      (found : shown.found? = none) (gives : ∀ id, action.givesBack id = 0)
  /-- The inode table is called; what is looked up is a node of the tree. -/
  | called (call : Inode.Call NodeKey) (inodes : after.inodes = (fs.inodes.call call).2)
      (tree : after.tree = fs.tree)
      (isLookup : ∀ key, call = .lookup key →
        (fs.tree.node? key).isSome ∧ action.isLookup = true)
      (found : shown.found? = (fs.inodes.call call).1.found?.map Prod.snd)
      (gives : ∀ id, action.givesBack id = (fs.inodes.call call).1.givesBack id)

theorem moved_lookup (fs : TreeFs) (route : Route) (context : Context)
    (request : LookupRequest) :
    Moved fs (.query route context (.lookup request))
      (.ofResult route (Query.lookup request).asked context.info
        (lookupRecord (route.received request))
        (fun entry => some ⟨entry.child, entry.generation⟩)
        (fs.lookup context.now (route.received request)).1)
      (fs.lookup context.now (route.received request)).2 := by
  cases resolved : fs.resolveName (route.received request) with
  | error refusal =>
    rw [lookup_of_error resolved]
    refine .quiet rfl (fun _ => rfl) ?_ fun _ => rfl
    cases route <;> rfl
  | ok pair =>
    obtain ⟨key, attributes⟩ := pair
    obtain ⟨node, there, _⟩ := node?_of_resolveName resolved
    rw [lookup_of_ok resolved]
    refine .called (.lookup key) rfl rfl ?_ ?_ fun id => ?_
    · rintro _ ⟨⟩
      exact ⟨by rw [there]; rfl, rfl⟩
    · rw [Inode.Table.found?_call_lookup]
      cases (fs.inodes.lookup key).1 with
      | none => cases route <;> rfl
      | some incarnation => rfl
    · exact (Inode.Table.givesBack_call_lookup fs.inodes key id).symm

theorem moved_openDir (fs : TreeFs) (route : Route) (context : Context)
    (request : OpenDirRequest) :
    Moved fs (.query route context (.openDir request))
      (.ofResult route (Query.openDir request).asked context.info
        (openDirRecord request.inode) (fun _ => none) (fs.openDir request).1)
      (fs.openDir request).2 := by
  obtain ⟨inodes, tree⟩ := openDir_snd fs request
  refine .quiet inodes (fun key => by rw [tree]) ?_ fun _ => rfl
  cases (fs.openDir request).1 with
  | ok handle => rfl
  | error refusal => cases route <;> rfl

/-- Every action keeps the session going, by either route. -/
theorem act_moved (fs : TreeFs) (action : Action) :
    ∃ shown after, act ⟨fs, .serving⟩ action = (shown, ⟨after, .serving⟩) ∧
      Moved fs action shown after := by
  cases action with
  | resize path size =>
    exact ⟨_, _, rfl, .quiet (inodes_resize path size) (isSome_node?_resize path size) rfl
      fun _ => rfl⟩
  | query route context query =>
    cases query with
    | lookup request =>
      exact ⟨_, _, act_lookup fs route context request, moved_lookup fs route context request⟩
    | forget request =>
      refine ⟨_, _, act_forget fs route context request, ?_⟩
      exact .called (.forget request.inode request.count) rfl rfl nofun rfl fun _ => rfl
    | openDir request =>
      exact ⟨_, _, act_openDir fs route context request, moved_openDir fs route context request⟩
    | releaseDir inode request =>
      refine ⟨_, _, act_releaseDir fs route context inode request, ?_⟩
      exact .quiet rfl (fun _ => rfl) rfl fun _ => rfl

/-- An ID that stays valid keeps its generation and its node. -/
theorem Moved.keeps {fs after : TreeFs} {action : Action} {shown : Shown}
    (moved : Moved fs action shown after) (wf : fs.inodes.Wf) {id : InodeId}
    (valid : fs.isValid id = true) (still : after.isValid id = true) :
    after.generation? id = fs.generation? id ∧
      after.inodes.resolve? id = fs.inodes.resolve? id := by
  cases moved with
  | quiet inodes =>
    rw [generation?, generation?, inodes]
    exact ⟨rfl, rfl⟩
  | called call inodes =>
    rw [generation?, generation?, inodes]
    rw [isValid, inodes] at still
    rw [isValid] at valid
    by_cases isRoot : id = .root
    · subst isRoot
      rw [Inode.Table.resolve?_root, Inode.Table.resolve?_root,
        (fs.inodes.sameSetup_call call).rootKey_eq]
      exact ⟨rfl, rfl⟩
    · rw [Inode.Table.isValid_of_ne_root isRoot, Option.isSome_iff_exists] at valid still
      obtain ⟨record, live⟩ := valid
      obtain ⟨changed, there⟩ := still
      obtain ⟨sameKey, sameGeneration⟩ := (wf.step call).keeps live there
      rw [Inode.Table.generation?_of_ne_root isRoot, Inode.Table.generation?_of_ne_root isRoot,
        Inode.Table.resolve?_of_ne_root isRoot, Inode.Table.resolve?_of_ne_root isRoot, live,
        there]
      exact ⟨congrArg some sameGeneration, congrArg some sameKey⟩

/-! ## The invariant -/

/-- The node of every live ID is in the tree also after a call, if what is looked up is a node. -/
theorem inTree_call {tree : Tree} {inodes : Inode.Table NodeKey} (wf : inodes.Wf)
    (inTree : ∀ id record, inodes.record? id = some record → (tree.node? record.key).isSome)
    (call : Inode.Call NodeKey) (isNode : ∀ key, call = .lookup key → (tree.node? key).isSome)
    {id : InodeId} {record : Inode.Record NodeKey}
    (live : (inodes.call call).2.record? id = some record) :
    (tree.node? record.key).isSome := by
  -- an ID that was live keeps its node; another one was looked up, so its node is there
  rcases (wf.step call).key_cases live with ⟨old, before, same⟩ | looked
  · rw [← same]
    exact inTree id old before
  · exact isNode record.key looked

/-- The filesystem agrees with the books of the kernel. -/
structure Booked (past : List (Action × Shown)) (fs : TreeFs) : Prop where
  wf : fs.inodes.Wf
  rootKey : fs.inodes.rootKey = .root
  counts : ∀ id, id ≠ .root → fs.inodes.Counts id (held id past)
  covered : ∀ id, id ≠ .root → givenBack id past ≤ answered id past
  /-- Only lookups are answered with an ID. -/
  answered_le : ∀ id, answered id past ≤ past.countP fun exchange => exchange.1.isLookup
  inTree : ∀ id record, fs.inodes.record? id = some record → (fs.tree.node? record.key).isSome

theorem booked_start (tree : Tree) (policy : CachePolicy) (config : Inode.TableConfig)
    (hash : NodeKey → UInt64) : Booked [] (ofTree tree policy config hash) where
  wf := Inode.Table.wf_fresh NodeKey.root config hash
  rootKey := rfl
  counts id _ :=
    have dead := Inode.Table.record?_fresh NodeKey.root config hash id
    (Inode.Table.counts_of_none dead).mpr rfl
  covered _ _ := Nat.le_refl 0
  answered_le _ := Nat.le_refl 0
  inTree id record live := by
    have none := Inode.Table.record?_fresh NodeKey.root config hash id
    exact absurd (none.symm.trans live) nofun

theorem Action.Fair.givesBack_le {past : List (Action × Shown)} {action : Action}
    (fair : action.Fair past) {id : InodeId} (notRoot : id ≠ .root) :
    action.givesBack id ≤ held id past := by
  unfold Action.givesBack
  split
  · next request =>
    split
    · next same =>
      subst same
      exact fair notRoot
    · exact Nat.zero_le _
  · exact Nat.zero_le _

section

variable {past : List (Action × Shown)} {fs after : TreeFs} {action : Action} {shown : Shown}

theorem held_concat {id : InodeId} (covered : givenBack id past ≤ answered id past) :
    held id (past ++ [(action, shown)]) =
      held id past + (if shown.finds id then 1 else 0) - action.givesBack id := by
  rw [held, answered_concat, givenBack_concat, held]
  omega

/-- The books stay right with every action of a kernel that keeps them. -/
theorem Booked.act (booked : Booked past fs) (moved : Moved fs action shown after)
    (fair : action.Fair past)
    (few : (past ++ [(action, shown)]).countP (fun exchange => exchange.1.isLookup) <
      UInt64.size) :
    Booked (past ++ [(action, shown)]) after := by
  have lookups : (past ++ [(action, shown)]).countP (fun exchange => exchange.1.isLookup) =
      past.countP (fun exchange => exchange.1.isLookup) + if action.isLookup then 1 else 0 := by
    rw [List.countP_append, List.countP_singleton]
  -- a fair action gives back no more than the difference that is left
  have covered : ∀ id, id ≠ .root →
      givenBack id (past ++ [(action, shown)]) ≤ answered id (past ++ [(action, shown)]) := by
    intro id notRoot
    have before := booked.covered id notRoot
    have gives : action.givesBack id ≤ answered id past - givenBack id past :=
      fair.givesBack_le notRoot
    rw [answered_concat, givenBack_concat]
    omega
  cases moved with
  | quiet inodes nodes found gives =>
    have finds : ∀ id, shown.finds id = false := fun id => by rw [Shown.finds, found]; rfl
    refine ⟨inodes ▸ booked.wf, inodes ▸ booked.rootKey, ?_, covered, ?_, ?_⟩
    · intro id notRoot
      rw [inodes, held_concat (booked.covered id notRoot), finds, gives]
      exact booked.counts id notRoot
    · intro id
      rw [lookups, answered_concat, finds]
      exact Nat.le_trans (booked.answered_le id) (Nat.le_add_right _ _)
    · intro id record live
      rw [nodes]
      exact booked.inTree id record (inodes ▸ live)
  | called call inodes tree isLookup found gives =>
    have step := booked.wf.step call
    have finds : ∀ id, shown.finds id = (fs.inodes.call call).1.finds id := by
      intro id
      rw [Shown.finds, found, Option.any_map]
      rfl
    -- so what is held of an ID stays below the number of lookups, and does not overflow
    have onlyLookups : ∀ id, shown.finds id = true → action.isLookup = true := by
      intro id answers
      rw [finds] at answers
      cases call with
      | lookup key => exact (isLookup key rfl).2
      | forget => cases answers
    refine ⟨inodes ▸ booked.wf.call call, ?_, ?_, covered, ?_, ?_⟩
    · rw [inodes, (fs.inodes.sameSetup_call call).rootKey_eq]
      exact booked.rootKey
    · intro id notRoot
      rw [inodes, held_concat (booked.covered id notRoot), finds, gives]
      refine (booked.counts id notRoot).step step notRoot fun answers => ?_
      have bound := booked.answered_le id
      rw [lookups, onlyLookups id ((finds id).trans answers), if_pos rfl] at few
      rw [held]
      omega
    · intro id
      have before := booked.answered_le id
      rw [lookups, answered_concat]
      cases answers : shown.finds id with
      | false => exact Nat.le_trans before (Nat.le_add_right _ _)
      | true =>
        rw [onlyLookups id answers]
        exact Nat.succ_le_succ before
    · intro id record live
      rw [inodes] at live
      rw [tree]
      exact inTree_call booked.wf booked.inTree call (fun key same => (isLookup key same).1) live

end

end UserFs.TreeFs
