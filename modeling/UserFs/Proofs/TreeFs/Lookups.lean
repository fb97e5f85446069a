import UserFs.Proofs.Inode.Capacity
import UserFs.Proofs.Tree.Spelling
import UserFs.Proofs.TreeFs.NoTrace
import UserFs.Proofs.TreeFs.WellFormed

/-!
# What a lookup does

A lookup is decided by the node that the ID of the parent stands for (`HasNode`) and by what the
name means there (`Means`), and by nothing else:

* **refusals** — there is no parent (`resolveName_of_dead`), it is no directory
  (`HasNode.resolveName_of_file`), or the name means nothing in it
  (`HasNode.resolveName_of_missing`);
* **answers** — otherwise the node that the name means is looked up in the inode table. `Granted`
  says what becomes of the table when an ID is given for a key: the ID stands for the key, is
  counted once more, and no other ID is touched (`Wf.granted`). `Found` says the same of the
  filesystem, and that is how a lookup ends as long as there are numbers (`Wf.lookup_of_means`),
  and how every lookup that is answered has ended (`Wf.found_of_ok`);
* **names** — a name that means something is a component of a path (`Means.isComponent`), since
  the children of a tree in use are named so (`spelled_inUse`);
* **counts** — no ID has more lookups counted than there were (`countsAtMost_inUse`).
-/

namespace UserFs

/-! ## The inode table -/

namespace Inode.Table

variable {κ : Type} {table after : Table κ} {id : InodeId}

/-- An ID that has the same record as before looks the same. -/
theorem SameSetup.observed_eq (setup : table.SameSetup after)
    (same : after.record? id = table.record? id) :
    after.resolve? id = table.resolve? id ∧ after.generation? id = table.generation? id ∧
      after.lookupCount? id = table.lookupCount? id := by
  simp [resolve?, generation?, lookupCount?, same, setup.rootKey_eq]

/-- What becomes of the table when an incarnation is given for a key. -/
structure Granted (table : Table κ) (key : κ) (given : Incarnation) (after : Table κ) : Prop where
  live : after.isValid given.id = true
  resolved : after.resolve? given.id = some key
  current : after.generation? given.id = some given.generation
  /-- The lookup is counted, but for the root. -/
  counted : after.lookupCount? given.id =
    if given.id = .root then table.lookupCount? given.id
    else some ((table.lookupCount? given.id).elim 1 (· + 1))
  /-- An ID that was live is given for the key that it stood for, and not in another
  generation. -/
  kept : table.isValid given.id = true →
    table.resolve? given.id = some key ∧ table.generation? given.id = some given.generation
  others : ∀ other, other ≠ given.id →
    after.resolve? other = table.resolve? other ∧
      after.generation? other = table.generation? other ∧
      after.lookupCount? other = table.lookupCount? other

/-- An ID that was live keeps what it stands for. -/
theorem Granted.keeps {key : κ} {given : Incarnation} (granted : table.Granted key given after)
    (live : table.isValid id = true) :
    after.resolve? id = table.resolve? id ∧ after.generation? id = table.generation? id := by
  by_cases same : id = given.id
  · subst same
    obtain ⟨resolved, current⟩ := granted.kept live
    exact ⟨granted.resolved.trans resolved.symm, granted.current.trans current.symm⟩
  · obtain ⟨resolve, generation, _⟩ := granted.others id same
    exact ⟨resolve, generation⟩

variable [DecidableEq κ]

theorem Wf.granted (wf : table.Wf) {key : κ} {given : Incarnation}
    (found : (table.lookup key).1 = some given) :
    table.Granted key given (table.lookup key).2 := by
  obtain ⟨resolved, current⟩ := wf.resolve?_of_lookup found
  have live : (table.lookup key).2.isValid given.id = true := by
    rw [isValid, current]
    rfl
  have setup : table.SameSetup (table.lookup key).2 := table.sameSetup_call (.lookup key)
  have step : Step table (.lookup key) (table.call (.lookup key)).1 (table.lookup key).2 :=
    wf.step_lookup key
  have told := table.found?_call_lookup key
  rw [found, Option.map_some] at told
  generalize (table.call (.lookup key)).1 = event, (table.lookup key).2 = after at *
  cases step with
  | root =>
    cases told
    exact ⟨live, resolved, current, (if_pos rfl).symm, fun _ => ⟨rfl, rfl⟩,
      fun _ _ => ⟨rfl, rfl, rfl⟩⟩
  | counted before same records =>
    cases told
    have notRoot := ne_root_of_record? before
    refine ⟨live, resolved, current, ?_, fun _ => ?_, fun other different => ?_⟩
    · rw [if_neg notRoot, lookupCount?, lookupCount?, before, records, if_pos rfl]
      rfl
    · rw [resolve?_of_ne_root notRoot, generation?_of_ne_root notRoot, before, ← same]
      exact ⟨rfl, rfl⟩
    · apply setup.observed_eq
      rw [records, if_neg different]
  | minted _ _ notRoot dead records =>
    cases told
    refine ⟨live, resolved, current, ?_, fun valid => ?_, fun other different => ?_⟩
    · rw [if_neg notRoot, lookupCount?, lookupCount?, dead, records, if_pos rfl]
      rfl
    · rw [isValid_of_ne_root notRoot, dead] at valid
      cases valid
    · apply setup.observed_eq
      rw [records, if_neg different]
  | exhausted => cases told

end Inode.Table

namespace TreeFs

variable {fs : TreeFs} {request : LookupRequest} {key target : NodeKey} {node : Node}

/-! ## What names mean -/

/-- What means something is a name. -/
theorem Means.isComponent (spelled : fs.tree.Spelled) (there : fs.tree.node? key = some node)
    {name : Name} (means : Means key node name target) : name.IsComponent := by
  cases means with
  | itself => exact ⟨".", by decide, by decide, by decide⟩
  | parent => exact ⟨"..", by decide, by decide, by decide⟩
  | child _ _ listed =>
    apply spelled key name target
    rw [Tree.child?, there]
    exact listed

/-! ## Which node is looked up -/

namespace HasNode

theorem resolveName_of_file (has : fs.HasNode request.parent key node)
    (file : node.attributes.isDirectory = false) :
    fs.resolveName request = .error (.lookupInNonDirectory request.parent request.name) := by
  rw [has.resolveName_eq, file]
  rfl

theorem resolveName_of_missing (has : fs.HasNode request.parent key node)
    (directory : node.attributes.isDirectory = true)
    (nothing : ∀ target, ¬ Means key node request.name target) :
    fs.resolveName request = .error (.noSuchName request.name) := by
  rw [has.resolveName_eq, directory, designated?_eq_none nothing]
  rfl

theorem resolveName_of_means (has : fs.HasNode request.parent key node) (wf : fs.tree.Wf)
    (directory : node.attributes.isDirectory = true)
    (means : Means key node request.name target) :
    ∃ attributes, fs.tree.attributes? target = some attributes ∧
      fs.resolveName request = .ok (target, attributes) := by
  have designated := designated?_eq_some_iff.mpr means
  obtain ⟨child, found⟩ :=
    Option.isSome_iff_exists.mp (isSome_designated wf has.there designated)
  refine ⟨child.attributes, ?_, ?_⟩
  · rw [Tree.attributes?, found]
    rfl
  · rw [has.resolveName_eq, directory, designated]
    simp only [if_true, found]

end HasNode

/-! ## How a lookup ends -/

/-- A lookup was answered with an entry for a node, and did nothing but to count that. -/
structure Found (fs : TreeFs) (now : Instant) (target : NodeKey) (entry : Entry)
    (after : TreeFs) : Prop where
  granted : fs.inodes.Granted target ⟨entry.child, entry.generation⟩ after.inodes
  attributes : fs.tree.attributes? target = some entry.attributes
  validity : entry.validity = fs.policy.validity now
  tree : after.tree = fs.tree
  handles : after.handles = fs.handles
  policy : after.policy = fs.policy

/-- An ID that was live still stands for its node. -/
theorem Found.hasNode {now : Instant} {entry : Entry} {after : TreeFs} {id : InodeId}
    (found : fs.Found now target entry after) (has : fs.HasNode id key node) :
    after.HasNode id key node :=
  ⟨(found.granted.keeps has.isValid).1.trans has.resolved, found.tree ▸ has.there⟩

theorem Wf.found_of_given (wf : fs.Wf) {attributes : Attributes}
    (shown : fs.tree.attributes? target = some attributes)
    (resolved : fs.resolveName request = .ok (target, attributes)) {given : Incarnation}
    (granted : (fs.inodes.lookup target).1 = some given) (now : Instant) :
    let entry : Entry := ⟨given.id, given.generation, attributes, fs.policy.validity now⟩
    (fs.lookup now request).1 = .ok entry ∧
      fs.Found now target entry (fs.lookup now request).2 := by
  intro entry
  rw [lookup_of_ok resolved, granted]
  exact ⟨rfl, wf.inodes.granted granted, shown, rfl, rfl, rfl, rfl⟩

/-- Where a name means a node, the lookup is answered with an entry for it, or there is no number
left for its ID. -/
theorem Wf.lookup_of_means (wf : fs.Wf) (has : fs.HasNode request.parent key node)
    (directory : node.attributes.isDirectory = true)
    (means : Means key node request.name target) (now : Instant) :
    (∃ entry, (fs.lookup now request).1 = .ok entry ∧
        fs.Found now target entry (fs.lookup now request).2) ∨
      (fs.lookup now request).1 = .error .numbersExhausted ∧
        (fs.inodes.lookup target).1 = none := by
  obtain ⟨attributes, shown, resolved⟩ := has.resolveName_of_means wf.tree directory means
  cases granted : (fs.inodes.lookup target).1 with
  | none =>
    right
    rw [lookup_of_ok resolved, granted]
    exact ⟨rfl, rfl⟩
  | some given =>
    left
    exact ⟨_, wf.found_of_given shown resolved granted now⟩

/-- What was found by a lookup that is answered. -/
theorem Wf.found_of_ok (wf : fs.Wf) (has : fs.HasNode request.parent key node) {now : Instant}
    {entry : Entry} (answered : (fs.lookup now request).1 = .ok entry) :
    ∃ target, Means key node request.name target ∧
      fs.Found now target entry (fs.lookup now request).2 := by
  have refused : ∀ refusal, fs.resolveName request ≠ .error refusal := by
    intro refusal resolved
    rw [lookup_of_error resolved] at answered
    cases answered
  cases directory : node.attributes.isDirectory with
  | false => exact absurd (has.resolveName_of_file directory) (refused _)
  | true =>
    by_cases nothing : ∀ target, ¬ Means key node request.name target
    · exact absurd (has.resolveName_of_missing directory nothing) (refused _)
    · obtain ⟨target, means⟩ := Classical.not_forall_not.mp nothing
      rcases wf.lookup_of_means has directory means now with ⟨found, same, isFound⟩ | ⟨none, _⟩
      · cases same.symm.trans answered
        exact ⟨target, means, isFound⟩
      · cases none.symm.trans answered

/-- A lookup is answered only in a live parent. -/
theorem isValid_of_lookup {now : Instant} {entry : Entry}
    (answered : (fs.lookup now request).1 = .ok entry) : fs.isValid request.parent = true := by
  by_contra dead
  rw [Bool.not_eq_true] at dead
  rw [lookup_of_error (resolveName_of_dead dead)] at answered
  cases answered

/-- A lookup that is answered had a name. -/
theorem Wf.isComponent_of_lookup (wf : fs.Wf) (spelled : fs.tree.Spelled) {now : Instant}
    {entry : Entry} (answered : (fs.lookup now request).1 = .ok entry) :
    request.name.IsComponent := by
  obtain ⟨key, node, has⟩ := wf.exists_hasNode (isValid_of_lookup answered)
  obtain ⟨target, means, _⟩ := wf.found_of_ok has answered
  exact means.isComponent spelled has.there

theorem outcome_lookup_of_ok {context : Context} {entry : Entry}
    (answered : (fs.lookup context.now request).1 = .ok entry) :
    (handler.operations.lookup context request fs).outcome = .finished (.ok entry) := by
  show outcomeOf (fs.lookup context.now request).1 = _
  rw [answered]
  rfl

/-! ## The filesystem in use -/

theorem moved_perform (fs : TreeFs) (action : Action) :
    Moved fs action (action.shown (fs.perform action).1) (fs.perform action).2 := by
  obtain ⟨shown, after, acted, moved⟩ := act_moved fs action
  rw [act_eq] at acted
  cases acted
  exact moved

/-- Only a lookup lets a count grow, and by one. -/
theorem Moved.countsAtMost {after : TreeFs} {action : Action} {shown : Shown}
    (moved : Moved fs action shown after) (wf : fs.inodes.Wf) {count : Nat}
    (counts : fs.inodes.CountsAtMost count) :
    after.inodes.CountsAtMost (count + if action.isLookup then 1 else 0) := by
  cases moved with
  | quiet inodes =>
    rw [inodes]
    intro id record live
    exact Nat.le_add_right_of_le (counts id record live)
  | called call inodes _ isLookup =>
    have stepped := counts.step (wf.step call)
    rw [Inode.Table.isLookup_call] at stepped
    rw [inodes]
    cases call with
    | lookup key =>
      rw [(isLookup key rfl).2]
      exact stepped
    | forget id given =>
      intro id record live
      exact Nat.le_add_right_of_le (stepped id record live)

/-- An action leaves the links of the tree as they are. -/
theorem child?_perform (fs : TreeFs) (action : Action) (parent : NodeKey) (name : Name) :
    (fs.perform action).2.tree.child? parent name = fs.tree.child? parent name := by
  rcases fs.tree_perform_cases action with same | ⟨key, _, size, _, _, resized⟩
  · rw [same]
  · rw [resized]
    exact Tree.child?_setSize fs.tree key size parent name

section

variable (additions : List Addition) (policy : CachePolicy) (config : Inode.TableConfig)
  (hash : NodeKey → UInt64) (context : Context) (repliedAt : Instant) (actions : List Action)

theorem countsAtMost_inUse :
    (inUse additions policy config hash context repliedAt actions).inodes.CountsAtMost
      (actions.countP Action.isLookup) := by
  induction actions using List.reverseRecOn with
  | nil => exact Inode.Table.countsAtMost_fresh NodeKey.root config hash
  | append_singleton before action ih =>
    have wf := wf_inUse additions policy config hash context repliedAt before
    rw [inUse_append, List.countP_append, List.countP_singleton]
    exact (moved_perform _ action).countsAtMost wf.inodes ih

theorem spelled_inUse :
    (inUse additions policy config hash context repliedAt actions).tree.Spelled := by
  apply inUse_induction (motive := fun fs => fs.tree.Spelled)
  · exact Tree.spelled_rootOnly.addAll Tree.wf_rootOnly additions
  · intro fs action spelled
    exact spelled.of_child? (child?_perform fs action)

variable {additions policy config hash context repliedAt actions}

theorem toNat_lookupCount?_le {id : InodeId} {count : UInt64}
    (counted : (inUse additions policy config hash context repliedAt actions).inodes.lookupCount?
      id = some count) : count.toNat ≤ actions.countP Action.isLookup := by
  obtain ⟨record, live, rfl⟩ := Option.map_eq_some_iff.mp counted
  exact countsAtMost_inUse additions policy config hash context repliedAt actions id record live

/-- Where a lookup finds the numbers used up, there were as many lookups as there are numbers. -/
theorem used_of_exhausted
    (exhausted : ((inUse additions policy config hash context repliedAt actions).inodes.lookup
      target).1 = none) :
    UInt64.size ≤ (actions.countP Action.isLookup + 1) * max config.shards 1 + 1 := by
  have mirrors := mirrors_inUse additions policy config hash context repliedAt actions
  refine Nat.not_lt.mp fun room => ?_
  rw [← mirrors.size] at room
  have last := mirrors.atMost.isSome_lookup room target
  rw [exhausted] at last
  cases last

end

/-! ## The law -/

/-- **What a lookup does, in full.** After any additions and any actions, take any request for a
lookup, also one that no kernel would make. If its parent is not live, it is refused for that. A
parent that is live stands for a node. If that is no directory, the lookup is refused for that,
whatever the name. If the name means nothing there, the lookup is refused for that. If it means a
node — the directory itself, its parent, or a child — the lookup is answered with an entry for
that node, and nothing is changed but that the lookup is counted; only when the inode numbers are
used up it is refused for that, and then there were as many lookups as numbers. No name which is
empty, has a slash in it or is not UTF-8 means anything. And as no ID has more lookups counted than
there were, a count overflows only after as many lookups as there are 64-bit numbers. -/
theorem lookup_exact (additions : List Addition) (policy : CachePolicy)
    (config : Inode.TableConfig) (hash : NodeKey → UInt64) (context : Context)
    (repliedAt : Instant) (actions : List Action) (asked : Context) (request : LookupRequest) :
    let fs := inUse additions policy config hash context repliedAt actions
    let effect := handler.operations.lookup asked request fs
    (fs.isValid request.parent = false → effect.outcome =
      .finished (.error
        (ErrorKind.notFound.toError ("inode " ++ request.parent.text ++ " is not live")))) ∧
    (fs.isValid request.parent = true → ∃ key node, fs.HasNode request.parent key node) ∧
    (∀ key node, fs.HasNode request.parent key node →
      (node.attributes.isDirectory = false → effect.outcome =
        .finished (.error (ErrorKind.notADirectory.toError
          ("lookup " ++ request.name.quoted ++ " in " ++ request.parent.text)))) ∧
      (node.attributes.isDirectory = true →
        ((∀ target, ¬ Means key node request.name target) → effect.outcome =
          .finished (.error (ErrorKind.notFound.toError request.name.quoted))) ∧
        ∀ target, Means key node request.name target →
          (∃ entry, effect.outcome = .finished (.ok entry) ∧
            fs.Found asked.now target entry effect.state) ∨
          effect.outcome = .finished (.error
              (ErrorKind.inputOutput.toError "inode number space exhausted")) ∧
            UInt64.size ≤ (actions.countP Action.isLookup + 1) * max config.shards 1 + 1)) ∧
    (request.name.bytes = [] ∨ 0x2f ∈ request.name.bytes ∨
        ¬ request.name.bytes.toByteArray.IsValidUTF8 →
      ∀ entry, effect.outcome ≠ .finished (.ok entry)) ∧
    ∀ id count, fs.inodes.lookupCount? id = some count →
      count.toNat ≤ actions.countP Action.isLookup := by
  intro fs effect
  have wf : fs.Wf := wf_inUse additions policy config hash context repliedAt actions
  refine ⟨?_, wf.exists_hasNode, ?_, ?_, ?_⟩
  · intro dead
    exact outcome_lookup_of_error (resolveName_of_dead dead)
  · intro key node has
    refine ⟨fun file => ?_, fun directory => ⟨fun nothing => ?_, fun target means => ?_⟩⟩
    · exact outcome_lookup_of_error (has.resolveName_of_file file)
    · exact outcome_lookup_of_error (has.resolveName_of_missing directory nothing)
    · rcases wf.lookup_of_means has directory means asked.now with
        ⟨entry, answered, found⟩ | ⟨refused, exhausted⟩
      · exact .inl ⟨entry, outcome_lookup_of_ok answered, found⟩
      · refine .inr ⟨?_, used_of_exhausted exhausted⟩
        show outcomeOf (fs.lookup asked.now request).1 = _
        rw [refused]
        rfl
  · intro unspeakable entry answered
    have spelled : fs.tree.Spelled :=
      spelled_inUse additions policy config hash context repliedAt actions
    have component := wf.isComponent_of_lookup spelled (ok_of_outcomeOf answered)
    rcases unspeakable with empty | slash | invalid
    · exact component.bytes_ne_nil empty
    · exact component.slash_notMem slash
    · exact invalid component.isValidUtf8
  · intro id count counted
    exact toNat_lookupCount?_le counted

/-- After the visit the ID of `b` is not live, so nothing is found in it; in `a`, `b` is found again,
and `b/` never is. -/
theorem lookup_exact_visit :
    let context : Context := ⟨⟨1, 0, 0, 0⟩, .epoch⟩
    let fs := inUse [.file "a/b" 5] .disabled ⟨1, true⟩ (fun _ => 0) context .epoch visit
    let looked (parent : InodeId) (name : Name) :=
      handler.operations.lookup context ⟨parent, name⟩ fs
    (fs.isValid ⟨3⟩ = false ∧ (looked ⟨3⟩ .dot).outcome = .finished (.error
        (ErrorKind.notFound.toError ("inode " ++ InodeId.text ⟨3⟩ ++ " is not live")))) ∧
      (∃ node entry, fs.HasNode ⟨2⟩ ⟨1⟩ node ∧ node.attributes.isDirectory = true ∧
        Means ⟨1⟩ node (.ofString "b") ⟨2⟩ ∧
        (looked ⟨2⟩ (.ofString "b")).outcome = .finished (.ok entry) ∧
        fs.Found .epoch ⟨2⟩ entry (looked ⟨2⟩ (.ofString "b")).state) ∧
      ∀ entry, (looked ⟨2⟩ ⟨[0x62, 0x2f]⟩).outcome ≠ .finished (.ok entry) := by
  intro context fs looked
  have law := lookup_exact [.file "a/b" 5] .disabled ⟨1, true⟩ (fun _ => 0) context .epoch visit
    context
  have dead : fs.isValid ⟨3⟩ = false := by decide
  refine ⟨⟨dead, (law ⟨⟨3⟩, .dot⟩).1 dead⟩, ?_, ?_⟩
  · obtain ⟨node, there⟩ : ∃ node, fs.tree.node? ⟨1⟩ = some node :=
      Option.isSome_iff_exists.mp (by decide)
    have resolved : fs.inodes.resolve? ⟨2⟩ = some ⟨1⟩ := by decide
    have has : fs.HasNode ⟨2⟩ ⟨1⟩ node := ⟨resolved, there⟩
    have kinds : fs.tree.isDirectory ⟨1⟩ = true := by decide
    have listed : fs.tree.child? ⟨1⟩ (.ofString "b") = some ⟨2⟩ := by decide
    rw [Tree.isDirectory, there] at kinds
    rw [Tree.child?, there] at listed
    have means : Means ⟨1⟩ node (.ofString "b") ⟨2⟩ := .child (by decide) (by decide) listed
    obtain ⟨_, _, nodes, _⟩ := law ⟨⟨2⟩, .ofString "b"⟩
    rcases ((nodes _ _ has).2 kinds).2 _ means with ⟨entry, answered, found⟩ | ⟨_, used⟩
    · exact ⟨node, entry, has, kinds, means, answered, found⟩
    · exact absurd used (by decide)
  · obtain ⟨_, _, _, unspeakable, _⟩ := law ⟨⟨2⟩, ⟨[0x62, 0x2f]⟩⟩
    exact unspeakable (.inr (.inl (by decide)))

end TreeFs

end UserFs
