import UserFs.Proofs.TreeFs.Lookups

/-!
# Dot entries

A directory finds itself under `.` and its parent under `..`, and the kernel is not told another ID
for either of them while it holds one:

* **one ID** — a key whose ID is live is given that ID, in its generation
  (`Inode.Table.Wf.lookup_of_resolve?`), so a lookup that means a node with a live ID is answered
  with this ID and none is minted (`Wf.finds`);
* **one parent** — a child that was found in a directory has that directory for its parent, and the
  lookup that found it leaves the ID of the directory alone (`Inode.Table.Granted.keeps`), so `..`
  leads back (`Wf.finds_back`);
* **counts** — each of these lookups counts once on the ID it is answered with
  (`Found.countsLookup`).
-/

namespace UserFs

/-- A key that a live ID stands for is given this ID. -/
theorem Inode.Table.Wf.lookup_of_resolve? {κ : Type} [DecidableEq κ] {table : Table κ}
    (wf : table.Wf) {id : InodeId} {key : κ} {generation : Generation}
    (resolved : table.resolve? id = some key)
    (current : table.generation? id = some generation) :
    (table.lookup key).1 = some ⟨id, generation⟩ := by
  by_cases isRoot : id = .root
  · subst isRoot
    cases resolved
    cases current
    rw [lookup_rootKey]
    rfl
  · rw [resolve?_of_ne_root isRoot] at resolved
    rw [generation?_of_ne_root isRoot] at current
    obtain ⟨record, live, rfl⟩ := Option.map_eq_some_iff.mp resolved
    rw [live] at current
    cases current
    exact wf.lookup_of_record? live

namespace TreeFs

variable {fs : TreeFs} {request : LookupRequest} {key target : NodeKey} {node : Node}
  {id : InodeId} {generation : Generation} {asked : Context} {entry : Entry}

/-! ## Counts -/

/-- How many lookups are counted on an ID: none on the root, and none on an ID that is not live. -/
def lookups (fs : TreeFs) (id : InodeId) : UInt64 := (fs.inodes.lookupCount? id).getD 0

/-- Whether one lookup more is counted on an ID, unless it is the root's, and nothing else. -/
def CountsLookup (fs : TreeFs) (id : InodeId) (after : TreeFs) : Prop :=
  ∀ other, after.lookups other = fs.lookups other + if other = id ∧ id ≠ .root then 1 else 0

theorem Found.countsLookup {now : Instant} {after : TreeFs}
    (found : fs.Found now target entry after) : fs.CountsLookup entry.child after := by
  intro other
  unfold lookups
  by_cases same : other = entry.child
  · subst same
    rw [found.granted.counted]
    by_cases isRoot : entry.child = .root
    · simp [isRoot]
    · cases fs.inodes.lookupCount? entry.child <;> simp [isRoot]
  · rw [(found.granted.others other same).2.2]
    simp [same]

/-! ## Nodes with a live ID -/

/-- A lookup is answered with this entry, and counts on its ID. -/
structure Finds (fs : TreeFs) (asked : Context) (request : LookupRequest) (entry : Entry) :
    Prop where
  answered : (handler.operations.lookup asked request fs).outcome = .finished (.ok entry)
  counted : fs.CountsLookup entry.child (handler.operations.lookup asked request fs).state

/-- What means a node with a live ID is found under that ID. -/
theorem Wf.finds (wf : fs.Wf) (has : fs.HasNode request.parent key node)
    (directory : node.attributes.isDirectory = true)
    (means : Means key node request.name target) {found : Node} (live : fs.HasNode id target found)
    (current : fs.generation? id = some generation) (asked : Context) :
    fs.Finds asked request
      ⟨id, generation, found.attributes, fs.policy.validity asked.now⟩ := by
  obtain ⟨attributes, shown, resolved⟩ := has.resolveName_of_means wf.tree directory means
  have same : attributes = found.attributes := by
    rw [Tree.attributes?, live.there] at shown
    exact (Option.some.inj shown).symm
  have granted := wf.inodes.lookup_of_resolve? live.resolved current
  obtain ⟨answered, isFound⟩ := wf.found_of_given shown resolved granted asked.now
  rw [same] at answered isFound
  exact ⟨outcome_lookup_of_ok answered, isFound.countsLookup⟩

/-- Where a child was found in a directory, `..` leads back from it. -/
theorem Wf.finds_back (wf : fs.Wf) (has : fs.HasNode id key node)
    (current : fs.generation? id = some generation) {name : Name} (notDot : name ≠ .dot)
    (notDotDot : name ≠ .dotDot) {now : Instant}
    (answered : (fs.lookup now ⟨id, name⟩).1 = .ok entry)
    (directory : entry.attributes.isDirectory = true) (later : Context) :
    (fs.lookup now ⟨id, name⟩).2.Finds later ⟨entry.child, .dotDot⟩
      ⟨id, generation, node.attributes, fs.policy.validity later.now⟩ := by
  obtain ⟨target, means, found⟩ := wf.found_of_ok has answered
  have wfAfter := wf.lookup now ⟨id, name⟩
  generalize (fs.lookup now ⟨id, name⟩).2 = after at found wfAfter ⊢
  cases means with
  | itself => exact absurd rfl notDot
  | parent => exact absurd rfl notDotDot
  | child _ _ listed =>
    have link : fs.tree.child? key name = some target := by
      rw [Tree.child?, has.there]
      exact listed
    obtain ⟨child, there, shown⟩ := Option.map_eq_some_iff.mp found.attributes
    have hasChild : after.HasNode entry.child target child :=
      ⟨found.granted.resolved, found.tree ▸ there⟩
    have parent : child.parent = key := by
      have known := wf.tree.linked key name target link
      rw [Tree.parent?, there] at known
      exact Option.some.inj known
    have means : Means target child .dotDot key := parent ▸ .parent
    -- the lookup between has left the ID of the directory alone
    have still := (found.granted.keeps has.isValid).2.trans current
    rw [← found.policy]
    exact wfAfter.finds hasChild (shown ▸ directory) means (found.hasNode has) still later

/-- The root stands for the root of the tree, a directory which is its own parent. -/
theorem Wf.exists_root (wf : fs.Wf) :
    ∃ node, fs.HasNode .root .root node ∧ node.attributes = .directory ∧ node.parent = .root := by
  obtain ⟨node, there, attributes⟩ := Option.map_eq_some_iff.mp wf.tree.root
  have resolved : fs.inodes.resolve? .root = some .root := by
    rw [Inode.Table.resolve?_root, wf.rootKey]
  have parent := wf.tree.rootParent
  rw [Tree.parent?, there] at parent
  exact ⟨node, ⟨resolved, there⟩, attributes, Option.some.inj parent⟩

/-! ## The law -/

/-- **Dot entries lead where one is, and back.** After any additions and any actions, take any live
ID of a directory. A lookup of `.` in it is answered with this ID, its generation and its
attributes. If a lookup of another name in it, other than `..`, is answered with an ID for a
directory, a lookup of `..` in that one is answered with the first ID, its generation and its
attributes. In the root, a lookup of `..` is answered with the root. Each of these lookups counts
once on the ID that it is answered with, unless that is the root's, and on no other; and no ID has
more lookups counted than there were, so that no count goes around before as many lookups as there
are 64-bit numbers. -/
theorem dots_lead_back (additions : List Addition) (policy : CachePolicy)
    (config : Inode.TableConfig) (hash : NodeKey → UInt64) (context : Context)
    (repliedAt : Instant) (actions : List Action) :
    let fs := inUse additions policy config hash context repliedAt actions
    (∀ id key node generation, fs.HasNode id key node → node.attributes.isDirectory = true →
      fs.generation? id = some generation →
      (∀ asked, fs.Finds asked ⟨id, .dot⟩
        ⟨id, generation, node.attributes, fs.policy.validity asked.now⟩) ∧
      ∀ asked name entry, name ≠ .dot → name ≠ .dotDot →
        let effect := handler.operations.lookup asked ⟨id, name⟩ fs
        effect.outcome = .finished (.ok entry) →
        fs.CountsLookup entry.child effect.state ∧
        (entry.attributes.isDirectory = true → ∀ later,
          effect.state.Finds later ⟨entry.child, .dotDot⟩
            ⟨id, generation, node.attributes, fs.policy.validity later.now⟩)) ∧
    (∀ asked, fs.Finds asked ⟨.root, .dotDot⟩
      ⟨.root, .initial, .directory, fs.policy.validity asked.now⟩) ∧
    ∀ id, (fs.lookups id).toNat ≤ actions.countP Action.isLookup := by
  intro fs
  have wf : fs.Wf := wf_inUse additions policy config hash context repliedAt actions
  refine ⟨?_, ?_, ?_⟩
  · intro id key node generation has directory current
    refine ⟨fun asked => wf.finds has directory .itself has current asked, ?_⟩
    intro asked name entry notDot notDotDot effect told
    have answered : (fs.lookup asked.now ⟨id, name⟩).1 = .ok entry := ok_of_outcomeOf told
    obtain ⟨_, _, found⟩ := wf.found_of_ok has answered
    exact ⟨found.countsLookup, wf.finds_back has current notDot notDotDot answered⟩
  · intro asked
    obtain ⟨node, has, directory, parent⟩ := wf.exists_root
    have means : Means .root node .dotDot .root := parent ▸ .parent
    rw [← directory]
    exact wf.finds has (directory ▸ rfl) means has rfl asked
  · intro id
    unfold lookups
    cases counted : fs.inodes.lookupCount? id with
    | none => exact Nat.zero_le _
    | some count => exact toNat_lookupCount?_le counted

/-- The ID of `a` is forgotten and issued again. In its second generation it is what `.` leads to,
and where `..` leads back to from `b`. -/
theorem dots_lead_back_reissued :
    let context : Context := ⟨⟨1, 0, 0, 0⟩, .epoch⟩
    let look : Action := .query (.session .epoch) context (.lookup ⟨.root, .ofString "a"⟩)
    let fs := inUse [.file "a/b/c" 5] .disabled ⟨1, true⟩ (fun _ => 0) context .epoch
      [look, .query .direct context (.forget ⟨⟨2⟩, 1⟩), look]
    let effect := handler.operations.lookup context ⟨⟨2⟩, .ofString "b"⟩ fs
    let uncached : Validity := ⟨.disabled, .disabled⟩
    fs.generation? ⟨2⟩ = some ⟨1⟩ ∧
      fs.Finds context ⟨⟨2⟩, .dot⟩ ⟨⟨2⟩, ⟨1⟩, .directory, uncached⟩ ∧
      effect.outcome = .finished (.ok ⟨⟨3⟩, .initial, .directory, uncached⟩) ∧
      effect.state.Finds context ⟨⟨3⟩, .dotDot⟩ ⟨⟨2⟩, ⟨1⟩, .directory, uncached⟩ := by
  intro context look fs effect uncached
  obtain ⟨directories, _⟩ := dots_lead_back [.file "a/b/c" 5] .disabled ⟨1, true⟩ (fun _ => 0)
    context .epoch [look, .query .direct context (.forget ⟨⟨2⟩, 1⟩), look]
  have current : fs.generation? ⟨2⟩ = some ⟨1⟩ := by decide
  have resolved : fs.inodes.resolve? ⟨2⟩ = some ⟨1⟩ := by decide
  have attributes : fs.tree.attributes? ⟨1⟩ = some .directory := by decide
  obtain ⟨node, there, shown⟩ := Option.map_eq_some_iff.mp attributes
  obtain ⟨itself, back⟩ :=
    directories ⟨2⟩ ⟨1⟩ node ⟨1⟩ ⟨resolved, there⟩ (by rw [shown]; rfl) current
  have answered : (fs.lookup .epoch ⟨⟨2⟩, .ofString "b"⟩).1 =
      .ok ⟨⟨3⟩, .initial, .directory, uncached⟩ := by decide
  have told : effect.outcome = .finished (.ok ⟨⟨3⟩, .initial, .directory, uncached⟩) :=
    outcome_lookup_of_ok answered
  have validity : fs.policy.validity .epoch = uncached := by decide
  have found := itself context
  have returned := (back context (.ofString "b") _ (by decide) (by decide) told).2 rfl context
  rw [shown, validity] at found returned
  exact ⟨current, found, told, returned⟩

end TreeFs

end UserFs
