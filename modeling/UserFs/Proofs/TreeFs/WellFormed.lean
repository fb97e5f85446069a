import UserFs.Proofs.TreeFs.Responses

/-!
# Nothing goes missing

Three of the causes for which a request can be refused say that a node is gone. None of them ever
arises, whatever is asked for:

* **the tree** — the parent of a node and its children are nodes (`Tree.Wf.isSome_parent`,
  `Tree.Wf.isSome_child`), so what a name means in a directory is one too;
* **the inode table** — the node of every live ID is in the tree. `Wf` says so, and every action
  keeps it (`Wf.perform`): only a node that was found in the tree is looked up in the table, and
  an ID that stays live keeps its node;
* **the requests** — so none is refused because a node is gone (`Wf.isGone_lookup`,
  `Wf.isGone_openDir`), and none reads as if it were (`Refusal.toError_ne_of_isGone`).
-/

namespace UserFs

/-! ## Links of a tree -/

namespace Tree

variable {tree : Tree} {key : NodeKey} {node : Node}

theorem isSome_node?_eq (tree : Tree) (key : NodeKey) :
    (tree.node? key).isSome = (tree.attributes? key).isSome :=
  Option.isSome_map.symm

/-- The parent of a node is in the tree. -/
theorem Wf.isSome_parent (wf : tree.Wf) (there : tree.node? key = some node) :
    (tree.node? node.parent).isSome := by
  have known : tree.parent? key = some node.parent := by
    rw [parent?, there]
    rfl
  by_cases isRoot : key = .root
  · subst isRoot
    have same : node.parent = .root := Option.some.inj (known.symm.trans wf.rootParent)
    rw [same, there]
    rfl
  · have present : (tree.attributes? key).isSome := by
      rw [← isSome_node?_eq, there]
      rfl
    -- another node is reached through a link, and its parent is where the link starts
    obtain ⟨parent, name, link⟩ := wf.reached key isRoot present
    have same : node.parent = parent :=
      Option.some.inj (known.symm.trans (wf.linked parent name key link))
    obtain ⟨start, starts, _⟩ := Option.bind_eq_some_iff.mp link
    rw [same, starts]
    rfl

/-- The children of a node are in the tree. -/
theorem Wf.isSome_child (wf : tree.Wf) (there : tree.node? key = some node) {name : Name}
    {child : NodeKey} (listed : node.children.get? name = some child) :
    (tree.node? child).isSome := by
  have link : tree.child? key name = some child := by
    rw [child?, there]
    exact listed
  rw [isSome_node?_eq]
  exact wf.isSome_of_link link

end Tree

namespace TreeFs

/-- What a name means in a directory is in the tree. -/
theorem isSome_designated {tree : Tree} (wf : tree.Wf) {key target : NodeKey} {node : Node}
    (there : tree.node? key = some node) {name : Name}
    (means : designated? key node name = some target) : (tree.node? target).isSome := by
  unfold designated? at means
  split at means
  · cases means
    rw [there]
    rfl
  · split at means
    · cases means
      exact wf.isSome_parent there
    · exact wf.isSome_child there means

/-! ## The invariant -/

/-- The tree and the inode table are in order and fit together. -/
structure Wf (fs : TreeFs) : Prop where
  tree : fs.tree.Wf
  inodes : fs.inodes.Wf
  rootKey : fs.inodes.rootKey = .root
  /-- The node of every live ID is in the tree. -/
  inTree : ∀ id record, fs.inodes.record? id = some record →
    (fs.tree.node? record.key).isSome

theorem wf_ofTree {tree : Tree} (wf : tree.Wf) (policy : CachePolicy)
    (config : Inode.TableConfig) (hash : NodeKey → UInt64) :
    (ofTree tree policy config hash).Wf where
  tree := wf
  inodes := Inode.Table.wf_fresh NodeKey.root config hash
  rootKey := rfl
  inTree id record live := by
    have dead := Inode.Table.record?_fresh NodeKey.root config hash id
    exact absurd (dead.symm.trans live) nofun

namespace Wf

variable {fs : TreeFs}

/-- The key that an ID stands for is that of a node. -/
theorem isSome_of_resolve? (wf : fs.Wf) {id : InodeId} {key : NodeKey}
    (known : fs.inodes.resolve? id = some key) : (fs.tree.node? key).isSome := by
  by_cases isRoot : id = .root
  · subst isRoot
    rw [Inode.Table.resolve?_root, wf.rootKey] at known
    cases known
    rw [Tree.isSome_node?_eq, wf.tree.root]
    rfl
  · rw [Inode.Table.resolve?_of_ne_root isRoot] at known
    obtain ⟨record, live, rfl⟩ := Option.map_eq_some_iff.mp known
    exact wf.inTree id record live

/-- Every live ID stands for a node. -/
theorem exists_hasNode (wf : fs.Wf) {id : InodeId} (valid : fs.isValid id = true) :
    ∃ key node, fs.HasNode id key node := by
  obtain ⟨key, resolved⟩ := Inode.Table.exists_resolve?_of_isValid valid
  obtain ⟨node, there⟩ := Option.isSome_iff_exists.mp (wf.isSome_of_resolve? resolved)
  exact ⟨key, node, resolved, there⟩

/-- A call of the inode table keeps the two together if what it looks up is a node. -/
theorem call (wf : fs.Wf) (call : Inode.Call NodeKey)
    (isNode : ∀ key, call = .lookup key → (fs.tree.node? key).isSome) :
    Wf { fs with inodes := (fs.inodes.call call).2 } where
  tree := wf.tree
  inodes := wf.inodes.call call
  rootKey := (fs.inodes.sameSetup_call call).rootKey_eq.trans wf.rootKey
  inTree _ _ live := inTree_call wf.inodes wf.inTree call isNode live

/-- Where the inode table is left alone, a change of the tree may remove no node. -/
theorem of_inodes (wf : fs.Wf) {after : TreeFs} (inodes : after.inodes = fs.inodes)
    (tree : after.tree.Wf)
    (nodes : ∀ key, (after.tree.node? key).isSome = (fs.tree.node? key).isSome) : after.Wf where
  tree := tree
  inodes := inodes ▸ wf.inodes
  rootKey := inodes ▸ wf.rootKey
  inTree id record live := by
    rw [nodes]
    apply wf.inTree id record
    rw [← inodes]
    exact live

theorem lookup (wf : fs.Wf) (now : Instant) (request : LookupRequest) :
    (fs.lookup now request).2.Wf := by
  cases resolved : fs.resolveName request with
  | error refusal =>
    rw [lookup_of_error resolved]
    exact wf
  | ok pair =>
    obtain ⟨node, there, _⟩ := node?_of_resolveName resolved
    rw [lookup_of_ok resolved]
    apply wf.call (.lookup pair.1)
    intro key same
    cases same
    rw [there]
    rfl

/-- Every action keeps the two together. -/
theorem perform (wf : fs.Wf) (action : Action) : (fs.perform action).2.Wf := by
  cases action with
  | resize path size =>
    obtain ⟨tree, _⟩ := resize_eq wf.tree path size
    exact wf.of_inodes (inodes_resize path size) tree (isSome_node?_resize path size)
  | query route context query =>
    cases query with
    | lookup request => exact wf.lookup context.now (route.received request)
    | forget request => exact wf.call (.forget request.inode request.count) nofun
    | openDir request =>
      obtain ⟨inodes, tree⟩ := openDir_snd fs request
      apply wf.of_inodes inodes
      · show (fs.openDir request).2.tree.Wf
        rw [tree]
        exact wf.tree
      · intro key
        show ((fs.openDir request).2.tree.node? key).isSome = _
        rw [tree]
    | releaseDir inode request => exact wf.of_inodes rfl wf.tree fun _ => rfl

end Wf

theorem wf_inUse (additions : List Addition) (policy : CachePolicy) (config : Inode.TableConfig)
    (hash : NodeKey → UInt64) (context : Context) (repliedAt : Instant) (actions : List Action) :
    (inUse additions policy config hash context repliedAt actions).Wf := by
  apply inUse_induction
  · exact wf_ofTree (Tree.wf_rootOnly.addAll additions) policy config hash
  · intro fs action wf
    exact wf.perform action

/-! ## Refusals -/

/-- Whether the cause is that a node is not in the tree which ought to be. -/
def Refusal.isGone : Refusal → Bool
  | .parentGone | .childGone | .nodeGone => true
  | _ => false

/-- No other refusal reads like that of a node which is gone. -/
theorem Refusal.toError_ne_of_isGone {gone refusal : Refusal} (isGone : gone.isGone = true)
    (other : refusal.isGone = false) : refusal.toError ≠ gone.toError := by
  intro same
  have letters : refusal.context.toList = gone.context.toList :=
    congrArg (fun error => error.context.toList) same
  have kinds : refusal.kind = gone.kind := congrArg FsError.kind same
  -- the texts differ within the first few letters, or the kinds do
  cases gone with
  | parentGone | childGone | nodeGone =>
    cases refusal with
    | noSuchName name =>
      obtain ⟨rest, quoted⟩ := toList_context_noSuchName name
      rw [quoted] at letters
      unfold context at letters
      simp at letters
    | parentGone | childGone | nodeGone => cases other
    | lookupInNonDirectory | numbersExhausted | notADirectory | writeFlags | pathOfDirectory =>
      cases kinds
    | notLive | noSuchPath =>
      unfold context at letters
      simp at letters
  | _ => cases isGone

section

variable {fs : TreeFs} {refusal : Refusal}

theorem Wf.isGone_resolveName (wf : fs.Wf) {request : LookupRequest}
    (refused : fs.resolveName request = .error refusal) : refusal.isGone = false := by
  cases valid : fs.isValid request.parent with
  | false =>
    rw [resolveName_of_dead valid] at refused
    cases refused
    rfl
  | true =>
    obtain ⟨key, parent, has⟩ := wf.exists_hasNode valid
    rw [has.resolveName_eq] at refused
    split at refused
    · cases means : designated? key parent request.name with
      | none =>
        rw [means] at refused
        cases refused
        rfl
      | some target =>
        obtain ⟨child, found⟩ :=
          Option.isSome_iff_exists.mp (isSome_designated wf.tree has.there means)
        simp only [means, found] at refused
        cases refused
    · cases refused
      rfl

theorem Wf.isGone_lookup (wf : fs.Wf) {now : Instant} {request : LookupRequest}
    (refused : (fs.lookup now request).1 = .error refusal) : refusal.isGone = false := by
  cases resolved : fs.resolveName request with
  | error cause =>
    rw [lookup_of_error resolved] at refused
    cases refused
    exact wf.isGone_resolveName resolved
  | ok pair =>
    rw [lookup_of_ok resolved] at refused
    dsimp only at refused
    split at refused
    · cases refused
      rfl
    · cases refused

theorem Wf.isGone_checkOpenDir (wf : fs.Wf) {request : OpenDirRequest}
    (refused : fs.checkOpenDir request = .error refusal) : refusal.isGone = false := by
  cases valid : fs.isValid request.inode with
  | false =>
    rw [checkOpenDir_of_dead valid] at refused
    cases refused
    rfl
  | true =>
    obtain ⟨key, node, has⟩ := wf.exists_hasNode valid
    rw [has.checkOpenDir_eq] at refused
    split at refused
    · split at refused
      · cases refused
        rfl
      · cases refused
    · cases refused
      rfl

theorem Wf.isGone_openDir (wf : fs.Wf) {request : OpenDirRequest}
    (refused : (fs.openDir request).1 = .error refusal) : refusal.isGone = false := by
  cases checked : fs.checkOpenDir request with
  | error cause =>
    rw [openDir_of_error checked] at refused
    cases refused
    exact wf.isGone_checkOpenDir checked
  | ok =>
    rw [openDir_of_ok checked] at refused
    cases refused

/-- A result that is not about a node which is gone is not told as one that is. -/
theorem outcomeOf_ne_of_isGone {α : Type} {result : Except Refusal α} (gone : Refusal)
    (isGone : gone.isGone = true)
    (other : ∀ refusal, result = .error refusal → refusal.isGone = false) :
    outcomeOf result ≠ .finished (.error gone.toError) := by
  intro told
  cases result with
  | ok value => cases told
  | error refusal =>
    have same : refusal.toError = gone.toError := Except.error.inj (Outcome.finished.inj told)
    exact Refusal.toError_ne_of_isGone isGone (other refusal rfl) same

/-- The node at the end of a path is in the tree. -/
theorem Wf.isSome_of_find? (wf : fs.Wf) {path : String} {key : NodeKey}
    (found : fs.tree.find? path = some key) : (fs.tree.node? key).isSome := by
  rw [Tree.isSome_node?_eq]
  exact wf.tree.exists_attributes? found

end

/-! ## Every run -/

/-- **Nothing is ever gone.** After any additions and any actions, the node of every ID that is
live is in the tree, and so are the parent of every node and its children, and the node at the end
of every path that leads to one. So no lookup and no open is refused with the words that a node is
gone, and a change of size finds the node that its path leads to. -/
theorem nothing_gone (additions : List Addition) (policy : CachePolicy)
    (config : Inode.TableConfig) (hash : NodeKey → UInt64) (context : Context)
    (repliedAt : Instant) (actions : List Action) :
    let fs := inUse additions policy config hash context repliedAt actions
    (∀ id key, fs.inodes.resolve? id = some key → (fs.tree.node? key).isSome) ∧
    (∀ key node, fs.tree.node? key = some node →
      (fs.tree.node? node.parent).isSome ∧
      ∀ name child, node.children.get? name = some child → (fs.tree.node? child).isSome) ∧
    (∀ asked request,
      let outcome := (handler.operations.lookup asked request fs).outcome
      outcome ≠ .finished (.error (ErrorKind.notFound.toError "parent node is gone")) ∧
      outcome ≠ .finished (.error (ErrorKind.notFound.toError "child node is gone"))) ∧
    (∀ asked request, (handler.operations.openDir asked request fs).outcome ≠
      .finished (.error (ErrorKind.notFound.toError "node is gone"))) ∧
    ∀ path key, fs.tree.find? path = some key → (fs.tree.node? key).isSome := by
  intro fs
  have wf : fs.Wf := wf_inUse additions policy config hash context repliedAt actions
  refine ⟨fun id key known => wf.isSome_of_resolve? known, ?_, ?_, ?_,
    fun path key found => wf.isSome_of_find? found⟩
  · intro key node there
    exact ⟨wf.tree.isSome_parent there, fun name child listed => wf.tree.isSome_child there listed⟩
  · intro asked request outcome
    have other : ∀ refusal, (fs.lookup asked.now request).1 = .error refusal →
        refusal.isGone = false := fun refusal refused => wf.isGone_lookup refused
    constructor
    · exact outcomeOf_ne_of_isGone .parentGone rfl other
    · exact outcomeOf_ne_of_isGone .childGone rfl other
  · intro asked request
    exact outcomeOf_ne_of_isGone .nodeGone rfl fun refusal refused => wf.isGone_openDir refused

/-- The ID that `a` gave back is live again, and stands for `c`. -/
theorem nothing_gone_reissued :
    let context : Context := ⟨⟨1, 0, 0, 0⟩, .epoch⟩
    let actions : List Action := [
      .query (.session .epoch) context (.lookup ⟨.root, .ofString "a"⟩),
      .query .direct context (.forget ⟨⟨2⟩, 1⟩),
      .query .direct context (.lookup ⟨.root, .ofString "c"⟩)]
    let fs := inUse [.file "a/b" 5, .dir "c"] .disabled ⟨1, true⟩ (fun _ => 0) context .epoch
      actions
    fs.inodes.resolve? ⟨2⟩ = some ⟨3⟩ ∧ (fs.tree.node? ⟨3⟩).isSome ∧
      fs.tree.find? "a/b" = some ⟨2⟩ ∧ (fs.tree.node? ⟨2⟩).isSome := by
  intro context actions fs
  obtain ⟨live, _, _, _, ends⟩ := nothing_gone [.file "a/b" 5, .dir "c"] .disabled
    ⟨1, true⟩ (fun _ => 0) context .epoch actions
  have known : fs.inodes.resolve? ⟨2⟩ = some ⟨3⟩ := by decide
  have found : fs.tree.find? "a/b" = some ⟨2⟩ := by decide
  exact ⟨known, live _ _ known, found, ends _ _ found⟩

end TreeFs

end UserFs
