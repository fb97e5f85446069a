import UserFs.Proofs.Inode.Capacity
import UserFs.Proofs.Tree.Refinement
import UserFs.Proofs.TreeFs.Promises

/-!
# Paths of a filesystem in use

A file is found by its path when it gets another size, and by its names one after another when
the kernel looks it up, each in the ID that the lookup before was answered with. Both are
explained by one `PathMap`, that of the additions and of the changes of sizes since:

* **the state** — `Mirrors` says that the tree is this map and that the inode table is in order,
  and every action keeps it (`Mirrors.act`), so every run does (`Mirrors.run`);
* **the answers** — a change of size is answered from the map (`resize_eq`), and so are lookups
  along a path (`Mirrors.walk`), unless the inode numbers are used up, which takes as many
  lookups as there are numbers;
* `paths_meaningful` puts the two together for every run.

Where the two ways to a file disagree is at a file that took the place of a directory: what was
below it can still get another size, and can no longer be looked up (`resize_agrees_iff`).
-/

namespace UserFs.TreeFs

/-! ## Walks -/

/-- Looks names up one after another, the first in `parent` and each in the ID that the one
before was answered with: all the entries, or why one was refused. -/
def walk : TreeFs → InodeId → List (Instant × Name) → Except Refusal (List Entry)
  | _, _, [] => .ok []
  | fs, parent, (now, name) :: rest =>
    match fs.lookup now ⟨parent, name⟩ with
    | (.error refusal, _) => .error refusal
    | (.ok entry, after) => (after.walk entry.child rest).map (entry :: ·)

/-- The attributes that a walk was answered with, or the kind of error. -/
def attributesOf (result : Except Refusal (List Entry)) : Except ErrorKind (List Attributes) :=
  (result.mapError Refusal.kind).map (List.map Entry.attributes)

theorem attributesOf_cons (entry : Entry) (result : Except Refusal (List Entry)) :
    attributesOf (result.map (entry :: ·)) =
      (attributesOf result).map (entry.attributes :: ·) := by
  cases result <;> rfl

section

variable {fs : TreeFs} {parent : InodeId} {key : NodeKey} {attributes : Attributes} {name : Name}

/-- What a lookup by an ordinary name is about: a child of the node. -/
theorem resolveName_eq (known : fs.inodes.resolve? parent = some key)
    (there : fs.tree.attributes? key = some attributes) (notDot : name ≠ .dot)
    (notDotDot : name ≠ .dotDot) :
    fs.resolveName ⟨parent, name⟩ =
      if attributes.isDirectory then
        match fs.tree.child? key name with
        | none => .error (.noSuchName name)
        | some child =>
          match fs.tree.attributes? child with
          | none => .error .childGone
          | some found => .ok (child, found)
      else .error (.lookupInNonDirectory parent name) := by
  obtain ⟨node, present, rfl⟩ := Option.map_eq_some_iff.mp there
  have designated : designated? key node name = fs.tree.child? key name := by
    rw [designated?, if_neg notDot, if_neg notDotDot, Tree.child?, present]
    rfl
  have has : fs.HasNode parent key node := ⟨known, present⟩
  have resolved : fs.resolveName ⟨parent, name⟩ = _ := has.resolveName_eq
  rw [resolved, designated]
  cases fs.tree.child? key name with
  | none => rfl
  | some child =>
    simp only [Tree.attributes?]
    cases fs.tree.node? child <;> rfl

end

/-! ## Sizes -/

theorem resize_eq {fs : TreeFs} (shape : fs.tree.Wf) (path : String) (size : UInt64) :
    (fs.resize path size).2.tree.Wf ∧
      ((fs.resize path size).1.mapError Refusal.kind, (fs.resize path size).2.tree.pathMap) =
        fs.tree.pathMap.resize (pathNames path) size := by
  have sought : fs.tree.find? path = fs.tree.descend? .root (pathNames path) := rfl
  cases found : fs.tree.descend? .root (pathNames path) with
  | none =>
    have missing : fs.tree.pathMap.get? (pathNames path) = none := by
      rw [Tree.get?_pathMap, found, Option.bind_none]
    rw [resize, sought, found, PathMap.resize, missing]
    exact ⟨shape, rfl⟩
  | some key =>
    obtain ⟨attributes, there⟩ := Option.isSome_iff_exists.mp (shape.exists_attributes? found)
    obtain ⟨node, present, rfl⟩ := Option.map_eq_some_iff.mp there
    have stands := (Tree.get?_of_descend? found).trans there
    rw [resize, sought, found]
    dsimp only
    rw [present, PathMap.resize, stands]
    dsimp only
    cases isFile : node.attributes.isDirectory with
    | true => exact ⟨shape, rfl⟩
    | false =>
      refine ⟨shape.setSize there isFile size, ?_⟩
      exact congrArg (_, ·) (shape.pathMap_setSize found there size)

/-! ## The state -/

/-- What an action changes of the map. -/
def Action.change (map : PathMap) : Action → PathMap
  | .query _ _ _ => map
  | .resize path size => (map.resize (pathNames path) size).2

/-- The map after actions in order. -/
def changes (map : PathMap) (actions : List Action) : PathMap := actions.foldl Action.change map

/-- The tree is this map, and the inode table of so many shards is in order after so many
lookups. -/
structure Mirrors (map : PathMap) (shards lookups : Nat) (fs : TreeFs) : Prop where
  shape : fs.tree.Wf
  pathMap : fs.tree.pathMap = map
  inodes : fs.inodes.Wf
  rootKey : fs.inodes.rootKey = .root
  size : fs.inodes.shards.size = shards
  atMost : fs.inodes.AtMost lookups

theorem mirrors_ofTree {tree : Tree} (wf : tree.Wf) (policy : CachePolicy)
    (config : Inode.TableConfig) (hash : NodeKey → UInt64) :
    Mirrors tree.pathMap (max config.shards 1) 0 (ofTree tree policy config hash) where
  shape := wf
  pathMap := rfl
  inodes := Inode.Table.wf_fresh NodeKey.root config hash
  rootKey := rfl
  size := Inode.Table.size_fresh NodeKey.root config hash
  atMost := Inode.Table.atMost_fresh NodeKey.root config hash

theorem mirrors_start (additions : List Addition) (policy : CachePolicy)
    (config : Inode.TableConfig) (hash : NodeKey → UInt64) :
    Mirrors (PathMap.rootOnly.addAll additions) (max config.shards 1) 0
      (ofTree (Tree.rootOnly.addAll additions).2 policy config hash) := by
  rw [← Tree.pathMap_rootOnly, ← Tree.wf_rootOnly.pathMap_addAll additions]
  exact mirrors_ofTree (Tree.wf_rootOnly.addAll additions) policy config hash

namespace Mirrors

variable {map : PathMap} {shards lookups : Nat} {fs after : TreeFs}

/-- Where the inode table is left alone, only the tree matters. -/
theorem of_inodes (mirrors : Mirrors map shards lookups fs) (inodes : after.inodes = fs.inodes)
    (shape : after.tree.Wf) {other : PathMap} (pathMap : after.tree.pathMap = other) :
    Mirrors other shards lookups after where
  shape := shape
  pathMap := pathMap
  inodes := inodes ▸ mirrors.inodes
  rootKey := inodes ▸ mirrors.rootKey
  size := inodes ▸ mirrors.size
  atMost := inodes ▸ mirrors.atMost

theorem mono (mirrors : Mirrors map shards lookups fs) {more : Nat} (le : lookups ≤ more) :
    Mirrors map shards more fs :=
  { mirrors with atMost := mirrors.atMost.mono le }

theorem call (mirrors : Mirrors map shards lookups fs) (call : Inode.Call NodeKey) :
    Mirrors map shards (lookups + if call.isLookup then 1 else 0)
      { fs with inodes := (fs.inodes.call call).2 } where
  shape := mirrors.shape
  pathMap := mirrors.pathMap
  inodes := mirrors.inodes.call call
  rootKey := (fs.inodes.sameSetup_call call).rootKey_eq.trans mirrors.rootKey
  size := (fs.inodes.sameSetup_call call).size_eq.trans mirrors.size
  atMost := mirrors.atMost.call call

theorem lookup (mirrors : Mirrors map shards lookups fs) (now : Instant)
    (request : LookupRequest) :
    Mirrors map shards (lookups + 1) (fs.lookup now request).2 := by
  cases resolved : fs.resolveName request with
  | error refusal =>
    rw [lookup_of_error resolved]
    exact mirrors.mono (Nat.le_succ lookups)
  | ok pair =>
    rw [lookup_of_ok resolved]
    exact mirrors.call (.lookup pair.1)

theorem resize (mirrors : Mirrors map shards lookups fs) (path : String) (size : UInt64) :
    Mirrors (map.resize (pathNames path) size).2 shards lookups (fs.resize path size).2 := by
  obtain ⟨shape, answers⟩ := resize_eq mirrors.shape path size
  rw [mirrors.pathMap] at answers
  exact mirrors.of_inodes (inodes_resize path size) shape (congrArg Prod.snd answers)

/-- Every action does to the map what it should, by either route. -/
theorem act (mirrors : Mirrors map shards lookups fs) (action : Action) :
    ∃ after, (TreeFs.act ⟨fs, .serving⟩ action).2 = ⟨after, .serving⟩ ∧
      Mirrors (action.change map) shards (lookups + if action.isLookup then 1 else 0) after := by
  cases action with
  | resize path size => exact ⟨_, rfl, mirrors.resize path size⟩
  | query route context query =>
    cases query with
    | lookup request =>
      refine ⟨_, congrArg Prod.snd (act_lookup fs route context request), ?_⟩
      exact mirrors.lookup context.now (route.received request)
    | forget request =>
      refine ⟨_, congrArg Prod.snd (act_forget fs route context request), ?_⟩
      exact mirrors.call (.forget request.inode request.count)
    | openDir request =>
      obtain ⟨inodes, tree⟩ := openDir_snd fs request
      refine ⟨_, congrArg Prod.snd (act_openDir fs route context request), ?_⟩
      exact mirrors.of_inodes inodes (tree ▸ mirrors.shape) (tree ▸ mirrors.pathMap)
    | releaseDir inode request =>
      have inodes : (fs.release request).2.inodes = fs.inodes := rfl
      refine ⟨_, congrArg Prod.snd (act_releaseDir fs route context inode request), ?_⟩
      exact mirrors.of_inodes inodes mirrors.shape mirrors.pathMap

theorem run (mirrors : Mirrors map shards lookups fs) (actions : List Action) :
    ∃ after, TreeFs.run ⟨fs, .serving⟩ actions = ⟨after, .serving⟩ ∧
      Mirrors (changes map actions) shards (lookups + actions.countP Action.isLookup) after := by
  induction actions generalizing fs map lookups with
  | nil => exact ⟨fs, rfl, mirrors⟩
  | cons action rest ih =>
    obtain ⟨next, acted, kept⟩ := mirrors.act action
    obtain ⟨after, arrived, kept⟩ := ih kept
    refine ⟨after, ?_, ?_⟩
    · rw [TreeFs.run, acted, arrived]
    · rw [List.countP_cons, Nat.add_comm (rest.countP _), ← Nat.add_assoc]
      exact kept

end Mirrors

/-! ## What lookups come to -/

/-- The ID stands for the node at the end of a path, which leads there through directories. -/
structure Reached (map : PathMap) (here : List Name) (fs : TreeFs) (id : InodeId) : Prop where
  node : ∃ key, fs.tree.descend? .root here = some key ∧ fs.inodes.resolve? id = some key
  way : ¬ map.BelowFile here

/-- What a lookup of a name at a path comes to. -/
inductive Looked (map : PathMap) (shards lookups : Nat) (here : List Name) (name : Name) :
    Except Refusal Entry → TreeFs → Prop
  /-- There is something other than a directory at the path. -/
  | inFile {refusal : Refusal} {after : TreeFs} (file : map.isFile here = true)
      (kind : refusal.kind = .notADirectory) :
      Looked map shards lookups here name (.error refusal) after
  /-- There is nothing of the name. -/
  | missing {refusal : Refusal} {after : TreeFs} (passable : map.Passable here)
      (nothing : map.get? (here ++ [name]) = none) (kind : refusal.kind = .notFound) :
      Looked map shards lookups here name (.error refusal) after
  /-- The numbers are used up. -/
  | exhausted {after : TreeFs} (used : UInt64.size ≤ (lookups + 1) * shards + 1) :
      Looked map shards lookups here name (.error .numbersExhausted) after
  /-- The node there is found, and its ID is that of the path. -/
  | found {entry : Entry} {after : TreeFs}
      (stands : map.get? (here ++ [name]) = some entry.attributes)
      (mirrors : Mirrors map shards (lookups + 1) after)
      (reached : Reached map (here ++ [name]) after entry.child) :
      Looked map shards lookups here name (.ok entry) after

section

variable {map : PathMap} {shards lookups : Nat} {fs : TreeFs} {here : List Name}
  {parent : InodeId} {name : Name}

theorem Mirrors.looked (mirrors : Mirrors map shards lookups fs)
    (reached : Reached map here fs parent) (now : Instant) (notDot : name ≠ .dot)
    (notDotDot : name ≠ .dotDot) :
    Looked map shards lookups here name (fs.lookup now ⟨parent, name⟩).1
      (fs.lookup now ⟨parent, name⟩).2 := by
  have shape := mirrors.shape
  obtain ⟨key, arrived, known⟩ := reached.node
  obtain ⟨attributes, there⟩ := Option.isSome_iff_exists.mp (shape.exists_attributes? arrived)
  have resolved := resolveName_eq known there notDot notDotDot
  have stands := (Tree.get?_of_descend? arrived).trans there
  have below := Tree.get?_concat arrived name
  rw [mirrors.pathMap] at stands below
  cases directory : attributes.isDirectory with
  | false =>
    rw [directory, if_neg Bool.false_ne_true] at resolved
    rw [lookup_of_error resolved]
    refine .inFile ?_ rfl
    rw [PathMap.isFile_of_get? stands, directory]
    rfl
  | true =>
    have closed : map.Closed := mirrors.pathMap ▸ shape.closed
    have passable := PathMap.passable_of_directory closed reached.way stands directory
    rw [directory, if_pos rfl] at resolved
    cases link : fs.tree.child? key name with
    | none =>
      rw [link] at resolved below
      rw [lookup_of_error resolved]
      exact .missing passable below rfl
    | some child =>
      obtain ⟨found, isThere⟩ := Option.isSome_iff_exists.mp (shape.isSome_of_link link)
      simp only [link, isThere, Option.bind_some] at resolved below
      have kept := mirrors.lookup now ⟨parent, name⟩
      rw [lookup_of_ok resolved] at kept ⊢
      cases given : (fs.inodes.lookup child).1 with
      | none =>
        refine .exhausted (Nat.not_lt.mp fun room => ?_)
        rw [← mirrors.size] at room
        have last := mirrors.atMost.isSome_lookup room child
        rw [given] at last
        cases last
      | some incarnation =>
        refine .found below kept ⟨⟨child, ?_, ?_⟩, passable.not_belowFile_concat name⟩
        · show fs.tree.descend? .root (here ++ [name]) = some child
          rw [Tree.descend?_concat, arrived, Option.bind_some, link]
        · exact (mirrors.inodes.resolve?_of_lookup given).1

/-- Lookups along a path below `here` show what the map has there. -/
theorem Mirrors.walk (mirrors : Mirrors map shards lookups fs)
    (reached : Reached map here fs parent) {steps : List (Instant × Name)}
    (ordinary : ∀ step ∈ steps, step.2 ≠ .dot ∧ step.2 ≠ .dotDot) :
    attributesOf (fs.walk parent steps) = map.lookUp here (steps.map Prod.snd) ∨
      fs.walk parent steps = .error .numbersExhausted ∧
        UInt64.size ≤ (lookups + steps.length) * shards + 1 := by
  induction steps generalizing fs here parent lookups with
  | nil =>
    obtain ⟨key, arrived, _⟩ := reached.node
    have there := mirrors.shape.exists_attributes? arrived
    rw [← Tree.get?_of_descend? arrived, mirrors.pathMap] at there
    obtain ⟨attributes, stands⟩ := Option.isSome_iff_exists.mp there
    exact .inl (PathMap.lookUp_nil reached.way stands).symm
  | cons step rest ih =>
    obtain ⟨now, name⟩ := step
    obtain ⟨⟨notDot, notDotDot⟩, others⟩ := List.forall_mem_cons.mp ordinary
    have looked := mirrors.looked reached now notDot notDotDot
    have closed : map.Closed := mirrors.pathMap ▸ mirrors.shape.closed
    have fewer : lookups + 1 ≤ lookups + (rest.length + 1) := by omega
    rw [List.map_cons, List.length_cons, TreeFs.walk]
    generalize fs.lookup now ⟨parent, name⟩ = result at looked ⊢
    obtain ⟨answer, after⟩ := result
    cases looked with
    | inFile file kind =>
      rw [PathMap.lookUp_of_isFile file]
      exact .inl (congrArg Except.error kind)
    | missing passable nothing kind =>
      rw [passable.lookUp_of_missing closed nothing]
      exact .inl (congrArg Except.error kind)
    | exhausted used =>
      have scaled := Nat.mul_le_mul_right shards fewer
      exact .inr ⟨rfl, by omega⟩
    | @found entry after stands mirrors reached =>
      dsimp only
      rw [PathMap.lookUp_cons stands]
      rcases ih mirrors reached others with same | ⟨refused, used⟩
      · exact .inl ((attributesOf_cons entry _).trans (congrArg _ same))
      · refine .inr ⟨congrArg (Except.map (entry :: ·)) refused, ?_⟩
        rw [Nat.add_comm rest.length, ← Nat.add_assoc]
        exact used

theorem Mirrors.fst_resize (mirrors : Mirrors map shards lookups fs) (path : String)
    (size : UInt64) :
    (fs.resize path size).1.mapError Refusal.kind = (map.resize (pathNames path) size).1 := by
  have answers := (resize_eq mirrors.shape path size).2
  rw [mirrors.pathMap] at answers
  exact congrArg Prod.fst answers

theorem Mirrors.isFile_nil (mirrors : Mirrors map shards lookups fs) : map.isFile [] = false := by
  rw [PathMap.isFile, ← mirrors.pathMap, Tree.get?_of_descend? rfl, mirrors.shape.root]
  rfl

theorem Mirrors.reached_root (mirrors : Mirrors map shards lookups fs) :
    Reached map [] fs .root where
  node := ⟨.root, rfl, by rw [Inode.Table.resolve?_root, mirrors.rootKey]⟩
  way := by
    rw [PathMap.belowFile_iff]
    rintro ⟨above, first, notRoot, _⟩
    exact notRoot (List.prefix_nil.mp first)

end

/-! ## Every run -/

/-- The filesystem that the additions make, after the actions. -/
def inUse (additions : List Addition) (policy : CachePolicy) (config : Inode.TableConfig)
    (hash : NodeKey → UInt64) (context : Context) (repliedAt : Instant)
    (actions : List Action) : TreeFs :=
  (run (established (Tree.rootOnly.addAll additions).2 policy config hash context repliedAt)
    actions).state

theorem mirrors_inUse (additions : List Addition) (policy : CachePolicy)
    (config : Inode.TableConfig) (hash : NodeKey → UInt64) (context : Context)
    (repliedAt : Instant) (actions : List Action) :
    Mirrors (changes (PathMap.rootOnly.addAll additions) actions) (max config.shards 1)
      (actions.countP Action.isLookup)
      (inUse additions policy config hash context repliedAt actions) := by
  -- what the kernel has established is the filesystem itself, being served
  obtain ⟨after, arrived, mirrors⟩ := (mirrors_start additions policy config hash).run actions
  have same : inUse additions policy config hash context repliedAt actions = after :=
    congrArg Session.state arrived
  rw [same, ← Nat.zero_add (actions.countP Action.isLookup)]
  exact mirrors

/-- **Paths mean what the additions say.** After any additions and any actions, a change of size
is answered as the map says, and so are lookups along any path without `.` and `..`: with the
attributes that stand at each name, with that a name is missing, or with that something on the
way is no directory. Only when the inode numbers are used up a lookup is refused for that, and
then there were as many lookups as numbers. -/
theorem paths_meaningful (additions : List Addition) (policy : CachePolicy)
    (config : Inode.TableConfig) (hash : NodeKey → UInt64) (context : Context)
    (repliedAt : Instant) (actions : List Action) :
    let fs := inUse additions policy config hash context repliedAt actions
    let map := changes (PathMap.rootOnly.addAll additions) actions
    (∀ path size, (fs.resize path size).1.mapError Refusal.kind =
      (map.resize (pathNames path) size).1) ∧
    ∀ steps : List (Instant × Name),
      (∀ step ∈ steps, step.2 ≠ .dot ∧ step.2 ≠ .dotDot) →
      attributesOf (fs.walk .root steps) = map.lookUp [] (steps.map Prod.snd) ∨
        fs.walk .root steps = .error .numbersExhausted ∧
          UInt64.size ≤
            (actions.countP Action.isLookup + steps.length) * max config.shards 1 + 1 := by
  intro fs map
  have mirrors := mirrors_inUse additions policy config hash context repliedAt actions
  exact ⟨mirrors.fst_resize, fun steps ordinary => mirrors.walk mirrors.reached_root ordinary⟩

/-- What the kernel would be told of `a/b`, after its visit and the change of size in it. -/
theorem paths_meaningful_visit :
    let fs := inUse [.file "a/b" 5] .disabled ⟨1, true⟩ (fun _ => 0) ⟨⟨1, 0, 0, 0⟩, .epoch⟩ .epoch
      visit
    attributesOf (fs.walk .root [(.epoch, .ofString "a"), (.epoch, .ofString "b")]) =
      .ok [.directory, .regularFile 7] := by
  intro fs
  have meaningful := (paths_meaningful [.file "a/b" 5] .disabled ⟨1, true⟩ (fun _ => 0)
    ⟨⟨1, 0, 0, 0⟩, .epoch⟩ .epoch visit).2
  have answer := meaningful [(.epoch, .ofString "a"), (.epoch, .ofString "b")] (by decide)
  rcases answer with same | ⟨_, used⟩
  · rw [same]
    rfl
  · exact absurd used (by decide)

/-! ## Two ways to a file -/

theorem ordinary_of_components {path : String}
    (ordinary : ∀ component ∈ pathComponents path, component ≠ "." ∧ component ≠ "..") :
    ∀ name ∈ pathNames path, name ≠ .dot ∧ name ≠ .dotDot := by
  have dot : Name.ofString "." = .dot := by decide
  have dotDot : Name.ofString ".." = .dotDot := by decide
  intro name member
  obtain ⟨component, there, rfl⟩ := List.mem_map.mp member
  obtain ⟨notDot, notDotDot⟩ := ordinary component there
  rw [← dot, ← dotDot]
  exact ⟨fun same => notDot (Name.ofString_injective same),
    fun same => notDotDot (Name.ofString_injective same)⟩

/-- **Where the two ways to a file agree.** As long as there are inode numbers, a change of size
succeeds exactly if its path can be looked up and ends on a file — except where there is a
file below something other than a directory. -/
theorem resize_agrees_iff (additions : List Addition) (policy : CachePolicy)
    (config : Inode.TableConfig) (hash : NodeKey → UInt64) (context : Context)
    (repliedAt : Instant) (actions : List Action) {path : String} {steps : List (Instant × Name)}
    (names : steps.map Prod.snd = pathNames path)
    (ordinary : ∀ component ∈ pathComponents path, component ≠ "." ∧ component ≠ "..")
    (room : (actions.countP Action.isLookup + steps.length) * max config.shards 1 + 1 <
      UInt64.size) (size : UInt64) :
    let fs := inUse additions policy config hash context repliedAt actions
    let map := changes (PathMap.rootOnly.addAll additions) actions
    ((fs.resize path size).1.isOk = true ↔
        PathMap.endsOnFile (attributesOf (fs.walk .root steps)) = true) ↔
      ¬ (map.isFile (pathNames path) = true ∧ map.BelowFile (pathNames path)) := by
  intro fs map
  have mirrors : Mirrors map _ _ fs :=
    mirrors_inUse additions policy config hash context repliedAt actions
  have resized : (fs.resize path size).1.isOk = map.isFile (pathNames path) := by
    rw [← PathMap.isOk_resize map (pathNames path) size, ← mirrors.fst_resize path size]
    cases (fs.resize path size).1 <;> rfl
  have walked : attributesOf (fs.walk .root steps) = map.lookUp [] (pathNames path) := by
    rw [← names]
    refine (mirrors.walk mirrors.reached_root fun step member => ?_).resolve_right ?_
    · exact ordinary_of_components ordinary step.2 (names ▸ List.mem_map_of_mem member)
    · exact fun exhausted => Nat.not_le.mpr room exhausted.2
  rw [resized, walked, PathMap.endsOnFile_lookUp mirrors.isFile_nil]
  by_cases below : map.BelowFile (pathNames path) <;> simp [below]

/-- After the visit, the file can be had by either way. -/
theorem resize_agrees_iff_visit :
    let fs := inUse [.file "a/b" 5] .disabled ⟨1, true⟩ (fun _ => 0) ⟨⟨1, 0, 0, 0⟩, .epoch⟩ .epoch
      visit
    (fs.resize "a/b" 9).1.isOk = true ↔
      PathMap.endsOnFile
        (attributesOf (fs.walk .root [(.epoch, .ofString "a"), (.epoch, .ofString "b")])) = true :=
  (resize_agrees_iff [.file "a/b" 5] .disabled ⟨1, true⟩ (fun _ => 0) ⟨⟨1, 0, 0, 0⟩, .epoch⟩ .epoch
    visit (by decide) (by decide) (by decide) 9).mpr (by decide)

/-- When a file takes the place of the directory `a`, the size of `a/x` can still be changed, but
`x` cannot be looked up any more. -/
theorem not_resize_iff_walk : ¬ ∀ (additions : List Addition) (policy : CachePolicy)
    (config : Inode.TableConfig) (hash : NodeKey → UInt64) (context : Context)
    (repliedAt : Instant) (actions : List Action) (path : String) (steps : List (Instant × Name))
    (size : UInt64), steps.map Prod.snd = pathNames path →
    (∀ component ∈ pathComponents path, component ≠ "." ∧ component ≠ "..") →
    let fs := inUse additions policy config hash context repliedAt actions
    (fs.resize path size).1.isOk = true ↔
      PathMap.endsOnFile (attributesOf (fs.walk .root steps)) = true := by
  intro agree
  have differ := agree [.file "a/x" 1, .file "a" 2] .disabled ⟨1, true⟩ (fun _ => 0)
    ⟨⟨1, 0, 0, 0⟩, .epoch⟩ .epoch [] "a/x" [(.epoch, .ofString "a"), (.epoch, .ofString "x")] 7
    (by decide) (by decide)
  exact absurd differ (by decide)

end UserFs.TreeFs
