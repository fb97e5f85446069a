import UserFs.Proofs.Inode.Routing
import UserFs.TreeFs.Basic

/-!
# What requests do

What a lookup finds and whether an open is allowed depend on the node that the ID stands for
(`HasNode`) and on what the name means there (`Means`). One lemma for each request says what it
does, and which parts of the filesystem it leaves alone. Lookups and forgets are the only requests
that reach the inode table, and a request on a valid ID is refused for other reasons than that
the ID is not live.
-/

namespace UserFs.TreeFs

variable {fs : TreeFs} {key target : NodeKey} {node : Node}

/-! ## Nodes of IDs -/

/-- Whether an ID is live and stands for this node. -/
structure HasNode (fs : TreeFs) (id : InodeId) (key : NodeKey) (node : Node) : Prop where
  resolved : fs.inodes.resolve? id = some key
  there : fs.tree.node? key = some node

theorem HasNode.isValid {id : InodeId} (has : fs.HasNode id key node) : fs.isValid id = true := by
  rw [TreeFs.isValid, Inode.Table.isValid_eq_isSome_resolve?, has.resolved]
  rfl

theorem nodeKey_eq_ok_iff {inode : InodeId} {key : NodeKey} :
    fs.nodeKey inode = .ok key ↔ fs.inodes.resolve? inode = some key := by
  unfold nodeKey
  split
  · next found => rw [found, Except.ok.injEq, Option.some.injEq]
  · next missing =>
    rw [missing]
    exact ⟨nofun, nofun⟩

theorem nodeKey_of_dead {id : InodeId} (dead : fs.isValid id = false) :
    fs.nodeKey id = .error (.notLive id) := by
  have nothing : fs.inodes.resolve? id = none := by
    rw [isValid, Inode.Table.isValid_eq_isSome_resolve?] at dead
    simpa using dead
  rw [nodeKey, nothing]

/-! ## What names mean -/

/-- What a name means in a directory. The two dot entries come before any child. -/
inductive Means (key : NodeKey) (node : Node) : Name → NodeKey → Prop
  | itself : Means key node .dot key
  | parent : Means key node .dotDot node.parent
  | child {name : Name} {target : NodeKey} (notDot : name ≠ .dot) (notDotDot : name ≠ .dotDot)
      (listed : node.children.get? name = some target) : Means key node name target

theorem designated?_eq_some_iff {name : Name} :
    designated? key node name = some target ↔ Means key node name target := by
  constructor
  · intro designated
    unfold designated? at designated
    split at designated
    · next isDot =>
      cases designated
      rw [isDot]
      exact .itself
    · next notDot =>
      split at designated
      · next isDotDot =>
        cases designated
        rw [isDotDot]
        exact .parent
      · next notDotDot => exact .child notDot notDotDot designated
  · intro means
    cases means with
    | itself => rfl
    | parent => rfl
    | child notDot notDotDot listed => rw [designated?, if_neg notDot, if_neg notDotDot, listed]

theorem designated?_eq_none {name : Name} (nothing : ∀ target, ¬ Means key node name target) :
    designated? key node name = none := by
  apply Option.eq_none_iff_forall_ne_some.mpr
  intro target designated
  exact nothing target (designated?_eq_some_iff.mp designated)

/-! ## Lookups -/

theorem resolveName_of_dead {request : LookupRequest}
    (dead : fs.isValid request.parent = false) :
    fs.resolveName request = .error (.notLive request.parent) := by
  rw [resolveName, nodeKey_of_dead dead]
  rfl

/-- What a lookup in a node is about. -/
theorem HasNode.resolveName_eq {request : LookupRequest}
    (has : fs.HasNode request.parent key node) :
    fs.resolveName request =
      if node.attributes.isDirectory then
        match designated? key node request.name with
        | none => .error (.noSuchName request.name)
        | some target =>
          match fs.tree.node? target with
          | none => .error .childGone
          | some child => .ok (target, child.attributes)
      else .error (.lookupInNonDirectory request.parent request.name) := by
  unfold resolveName
  rw [nodeKey_eq_ok_iff.mpr has.resolved]
  simp only [bind, Except.bind, has.there]
  cases node.attributes.isDirectory <;> rfl

/-- A lookup that is not refused is about what the name means in the directory that the ID of the
parent stands for, and that is in the tree. -/
theorem means_of_resolveName {request : LookupRequest} {attributes : Attributes}
    (resolved : fs.resolveName request = .ok (target, attributes)) :
    ∃ key node, fs.HasNode request.parent key node ∧ node.attributes.isDirectory = true ∧
      Means key node request.name target ∧
      ∃ child, fs.tree.node? target = some child ∧ child.attributes = attributes := by
  cases known : fs.nodeKey request.parent with
  | error refusal =>
    rw [resolveName, known] at resolved
    cases resolved
  | ok key =>
    cases there : fs.tree.node? key with
    | none =>
      rw [resolveName, known] at resolved
      simp only [bind, Except.bind, there] at resolved
      cases resolved
    | some node =>
      have has : fs.HasNode request.parent key node := ⟨nodeKey_eq_ok_iff.mp known, there⟩
      rw [has.resolveName_eq] at resolved
      split at resolved
      · next directory =>
        split at resolved
        · cases resolved
        · next meant designated =>
          split at resolved
          · cases resolved
          · next child found =>
            cases resolved
            exact ⟨key, node, has, directory, designated?_eq_some_iff.mp designated, child, found,
              rfl⟩
      · cases resolved

/-- The node that a lookup is about is in the tree. -/
theorem node?_of_resolveName {request : LookupRequest} {key : NodeKey} {attributes : Attributes}
    (resolved : fs.resolveName request = .ok (key, attributes)) :
    ∃ node, fs.tree.node? key = some node ∧ node.attributes = attributes := by
  obtain ⟨_, _, _, _, _, there⟩ := means_of_resolveName resolved
  exact there

theorem resolveName_ne_notLive {request : LookupRequest}
    (valid : fs.isValid request.parent = true) (inode : InodeId) :
    fs.resolveName request ≠ .error (.notLive inode) := by
  obtain ⟨key, resolved⟩ := Inode.Table.exists_resolve?_of_isValid valid
  intro refused
  unfold resolveName at refused
  -- only the first check refuses that way, and it is passed; each case is another check
  rw [nodeKey_eq_ok_iff.mpr resolved] at refused
  simp only [bind, Except.bind] at refused
  split at refused
  · cases refused
  · split at refused
    · cases refused
    · split at refused
      · cases refused
      · split at refused <;> cases refused

theorem lookup_of_error {request : LookupRequest} {refusal : Refusal}
    (refused : fs.resolveName request = .error refusal) (now : Instant) :
    fs.lookup now request = (.error refusal, fs) := by
  rw [lookup, refused]

theorem lookup_of_ok {request : LookupRequest} {key : NodeKey} {attributes : Attributes}
    (resolved : fs.resolveName request = .ok (key, attributes)) (now : Instant) :
    fs.lookup now request =
      (match (fs.inodes.lookup key).1 with
        | none => .error .numbersExhausted
        | some incarnation =>
          .ok ⟨incarnation.id, incarnation.generation, attributes, fs.policy.validity now⟩,
        { fs with inodes := (fs.inodes.lookup key).2 }) := by
  cases looked : fs.inodes.lookup key with
  | mk found inodes => cases found <;> simp only [lookup, resolved, looked]

theorem handles_lookup (fs : TreeFs) (now : Instant) (request : LookupRequest) :
    (fs.lookup now request).2.handles = fs.handles := by
  cases resolved : fs.resolveName request with
  | error refusal => rw [lookup_of_error resolved]
  | ok pair => rw [lookup_of_ok resolved]

theorem tree_lookup (fs : TreeFs) (now : Instant) (request : LookupRequest) :
    (fs.lookup now request).2.tree = fs.tree := by
  cases resolved : fs.resolveName request with
  | error refusal => rw [lookup_of_error resolved]
  | ok pair => rw [lookup_of_ok resolved]

/-- A lookup in a valid directory is not refused because an ID is not live. -/
theorem lookup_ne_notLive {request : LookupRequest} (valid : fs.isValid request.parent = true)
    (now : Instant) (inode : InodeId) : (fs.lookup now request).1 ≠ .error (.notLive inode) := by
  cases resolved : fs.resolveName request with
  | error refusal =>
    rw [lookup_of_error resolved]
    intro same
    exact resolveName_ne_notLive valid inode (resolved.trans (by rw [Except.error.inj same]))
  | ok pair =>
    rw [lookup_of_ok resolved]
    dsimp only
    split <;> nofun

/-! ## Opens -/

theorem checkOpenDir_of_dead {request : OpenDirRequest}
    (dead : fs.isValid request.inode = false) :
    fs.checkOpenDir request = .error (.notLive request.inode) := by
  rw [checkOpenDir, nodeKey_of_dead dead]
  rfl

/-- What an open of a node asks of it. -/
theorem HasNode.checkOpenDir_eq {request : OpenDirRequest}
    (has : fs.HasNode request.inode key node) :
    fs.checkOpenDir request =
      if node.attributes.isDirectory then
        if request.flags.requestsWrite then .error (.writeFlags request.flags) else .ok ()
      else .error (.notADirectory request.inode) := by
  unfold checkOpenDir
  rw [nodeKey_eq_ok_iff.mpr has.resolved]
  simp only [bind, Except.bind, has.there]
  cases node.attributes.isDirectory <;> rfl

theorem openDir_of_error {request : OpenDirRequest} {refusal : Refusal}
    (refused : fs.checkOpenDir request = .error refusal) :
    fs.openDir request = (.error refusal, fs) := by
  rw [openDir, refused]

theorem openDir_of_ok {request : OpenDirRequest} (allowed : fs.checkOpenDir request = .ok ()) :
    fs.openDir request =
      (.ok (fs.handles.openWith ⟨request.inode, request.flags⟩).1,
        { fs with handles := (fs.handles.openWith ⟨request.inode, request.flags⟩).2 }) := by
  rw [openDir, allowed]

theorem openDir_snd (fs : TreeFs) (request : OpenDirRequest) :
    (fs.openDir request).2.inodes = fs.inodes ∧ (fs.openDir request).2.tree = fs.tree := by
  cases checked : fs.checkOpenDir request with
  | error refusal =>
    rw [openDir_of_error checked]
    exact ⟨rfl, rfl⟩
  | ok =>
    rw [openDir_of_ok checked]
    exact ⟨rfl, rfl⟩

/-- Only a directory that is to be read may be opened. -/
theorem requestsWrite_of_checkOpenDir {request : OpenDirRequest}
    (allowed : fs.checkOpenDir request = .ok ()) : request.flags.requestsWrite = false := by
  unfold checkOpenDir at allowed
  cases known : fs.nodeKey request.inode with
  | error refusal =>
    rw [known] at allowed
    cases allowed
  | ok key =>
    rw [known] at allowed
    simp only [bind, Except.bind] at allowed
    split at allowed
    · cases allowed
    · split at allowed
      · cases allowed
      · split at allowed
        · cases allowed
        · next reads => exact Bool.not_eq_true _ ▸ reads

theorem openDir_ne_notLive {request : OpenDirRequest} (valid : fs.isValid request.inode = true)
    (inode : InodeId) : (fs.openDir request).1 ≠ .error (.notLive inode) := by
  obtain ⟨key, resolved⟩ := Inode.Table.exists_resolve?_of_isValid valid
  have allowed : fs.checkOpenDir request ≠ .error (.notLive inode) := by
    intro refused
    unfold checkOpenDir at refused
    rw [nodeKey_eq_ok_iff.mpr resolved] at refused
    simp only [bind, Except.bind] at refused
    split at refused
    · cases refused
    · split at refused
      · cases refused
      · split at refused <;> cases refused
  cases checked : fs.checkOpenDir request with
  | error refusal =>
    rw [openDir_of_error checked]
    intro same
    exact allowed (checked.trans (by rw [Except.error.inj same]))
  | ok =>
    rw [openDir_of_ok checked]
    nofun

/-! ## Changes of sizes -/

/-- A change of size is refused, or the file at the end of the path gets the size. -/
theorem resize_cases (fs : TreeFs) (path : String) (size : UInt64) :
    (∃ refusal, fs.resize path size = (.error refusal, fs)) ∨
      ∃ key, (fs.tree.find? path = some key ∧
          ∃ node, fs.tree.node? key = some node ∧ node.attributes.isDirectory = false) ∧
        fs.resize path size = (.ok (), { fs with tree := fs.tree.setSize key size }) := by
  cases found : fs.tree.find? path with
  | none =>
    left
    rw [resize, found]
    exact ⟨_, rfl⟩
  | some key =>
    cases there : fs.tree.node? key with
    | none =>
      left
      simp only [resize, found, there]
      exact ⟨_, rfl⟩
    | some node =>
      simp only [resize, found, there]
      split
      · exact .inl ⟨_, rfl⟩
      · next isFile => exact .inr ⟨key, ⟨rfl, node, there, Bool.not_eq_true _ ▸ isFile⟩, rfl⟩

theorem inodes_resize (path : String) (size : UInt64) :
    (fs.resize path size).2.inodes = fs.inodes := by
  rcases fs.resize_cases path size with ⟨_, refused⟩ | ⟨_, _, resized⟩
  · rw [refused]
  · rw [resized]

theorem handles_resize (fs : TreeFs) (path : String) (size : UInt64) :
    (fs.resize path size).2.handles = fs.handles := by
  rcases fs.resize_cases path size with ⟨_, refused⟩ | ⟨_, _, resized⟩
  · rw [refused]
  · rw [resized]

/-- No node is removed when a size is changed. -/
theorem isSome_node?_resize (path : String) (size : UInt64) (key : NodeKey) :
    ((fs.resize path size).2.tree.node? key).isSome = (fs.tree.node? key).isSome := by
  rcases fs.resize_cases path size with ⟨_, refused⟩ | ⟨file, _, resized⟩
  · rw [refused]
  · rw [resized]
    show ((fs.tree.setSize file size).node? key).isSome = _
    rw [Tree.setSize, Tree.modifyNode, Tree.node?, Array.getElem?_modify]
    split
    · rw [Option.isSome_map, Tree.node?]
    · rfl

end UserFs.TreeFs
