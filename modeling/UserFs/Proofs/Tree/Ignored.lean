import UserFs.Proofs.Tree.Refinement

/-!
# Additions that are left out

An addition makes the directories that are missing on its way as it goes, and asks of each
directory that it enters whether it is one. It still changes nothing when it is left out
(`ignored_changes_nothing`): below a directory that was just made there is nothing, so no
component further down can be in the way (`EmptyDirectory.made`), and up to there the tree is
as it was. `Added` has one case for an addition that is made and one for an addition that is
left out, and says for each what stands on the way (`Wf.added_addBelow`).

So an addition that is not left out is found at its path, below directories only
(`Wf.get?_of_made`).
-/

namespace UserFs.Tree

variable {tree : Tree} {here : List Name} {current : NodeKey} {components : List String}

/-! ## New directories -/

/-- Whether a node is a directory with nothing in it. -/
structure EmptyDirectory (tree : Tree) (key : NodeKey) : Prop where
  attributes : tree.attributes? key = some .directory
  childless : ∀ name, tree.child? key name = none

theorem EmptyDirectory.isDirectory (empty : tree.EmptyDirectory current) :
    tree.isDirectory current = true := by
  rw [isDirectory_eq, empty.attributes]
  rfl

theorem enter_of_missing {name : Name} (free : tree.child? current name = none) :
    tree.enter current name = tree.addChild current name .directory := by
  rw [enter, free]

theorem enter_of_child {name : Name} {child : NodeKey}
    (link : tree.child? current name = some child) : tree.enter current name = (child, tree) := by
  rw [enter, link]

/-- A directory that is entered where there was none is empty. -/
theorem emptyDirectory_enter (there : (tree.attributes? current).isSome) {name : Name}
    (free : tree.child? current name = none) :
    (tree.enter current name).2.EmptyDirectory (tree.enter current name).1 := by
  rw [enter_of_missing free]
  constructor
  · rw [attributes?_addChild]
    exact if_pos rfl
  · intro other
    have old : ¬ (tree.nextKey = current ∧ other = name) := fun same =>
      ne_nextKey there same.1.symm
    rw [child?_addChild there]
    exact (if_neg old).trans (child?_nextKey tree other)

/-- Nothing is in the way of an addition below an empty directory. -/
theorem EmptyDirectory.made (empty : tree.EmptyDirectory current) (addition : Addition)
    (nonempty : components ≠ []) : (tree.addBelow addition components current).1 = none := by
  induction components generalizing current tree with
  | nil => exact absurd rfl nonempty
  | cons component rest ih =>
    cases rest with
    | nil => rfl
    | cons next rest =>
      have there : (tree.attributes? current).isSome := by rw [empty.attributes]; rfl
      have entered := emptyDirectory_enter there (empty.childless (.ofString component))
      rw [addBelow_cons]
      dsimp only
      rw [if_pos entered.isDirectory]
      exact ih entered (List.cons_ne_nil next rest)

/-! ## What comes of an addition -/

/-- Why an addition below the node at a path is left out, if it is, and the tree that it leaves. -/
inductive Added (tree : Tree) (addition : Addition) (here : List Name)
    (components : List String) : Option Addition.Ignored → Tree → Prop
  /-- The path leads through directories, as far as it is there. -/
  | made {after : Tree}
      (way : ¬ tree.pathMap.BelowFile (here ++ components.map Name.ofString)) :
      Added tree addition here components none after
  /-- Something other than a directory stands at a component before the last. -/
  | blocked (above : List String) {rest : List String} {component : String}
      (split : components = above ++ component :: rest) (more : rest ≠ [])
      (file : tree.pathMap.isFile (here ++ (above ++ [component]).map Name.ofString) = true) :
      Added tree addition here components (some (.notADirectory addition.path component)) tree

theorem Added.of_below {addition : Addition} {component : String}
    {ignored : Option Addition.Ignored} {after : Tree}
    (added : Added tree addition (here ++ [.ofString component]) components ignored after) :
    Added tree addition here (component :: components) ignored after := by
  cases added with
  | made way =>
    rw [List.append_assoc] at way
    exact .made way
  | blocked above split more file =>
    rw [List.append_assoc] at file
    exact .blocked (component :: above) (congrArg (component :: ·) split) more file

theorem Wf.added_addBelow (wf : tree.Wf) (found : tree.descend? .root here = some current)
    (passable : tree.pathMap.Passable here) (addition : Addition) (nonempty : components ≠ []) :
    Added tree addition here components (tree.addBelow addition components current).1
      (tree.addBelow addition components current).2 := by
  induction components generalizing here current with
  | nil => exact absurd rfl nonempty
  | cons component rest ih =>
    cases rest with
    | nil => exact .made (passable.not_belowFile_concat (.ofString component))
    | cons next rest =>
      have more := List.cons_ne_nil next rest
      have below := get?_concat found (.ofString component)
      rw [addBelow_cons]
      dsimp only
      cases link : tree.child? current (.ofString component) with
      | none =>
        rw [link, Option.bind_none] at below
        -- what is made here is empty, so the rest of the path is made as well
        have entered := emptyDirectory_enter (wf.exists_attributes? found) link
        rw [if_pos entered.isDirectory, entered.made addition more]
        exact .made (passable.not_belowFile_of_missing wf.closed below _)
      | some child =>
        obtain ⟨attributes, there⟩ := Option.isSome_iff_exists.mp (wf.isSome_of_link link)
        rw [link, Option.bind_some, there] at below
        rw [enter_of_child link, isDirectory_eq, there, Option.any_some]
        cases directory : attributes.isDirectory with
        | true =>
          have arrived : tree.descend? .root (here ++ [.ofString component]) = some child := by
            rw [descend?_concat, found, Option.bind_some, link]
          exact .of_below (ih arrived (passable.concat below directory) more)
        | false =>
          have file : tree.pathMap.isFile (here ++ [.ofString component]) = true := by
            rw [PathMap.isFile_of_get? below, directory]
            rfl
          exact .blocked [] rfl more file

theorem Wf.added_add (wf : tree.Wf) (addition : Addition)
    (nonempty : pathComponents addition.path ≠ []) :
    Added tree addition [] (pathComponents addition.path) (tree.add addition).1
      (tree.add addition).2 :=
  wf.added_addBelow rfl wf.passable_root addition nonempty

/-- An addition is left out exactly if something is in its way, and then the tree stays. -/
theorem Added.isSome_iff {addition : Addition} {ignored : Option Addition.Ignored} {after : Tree}
    (added : Added tree addition here components ignored after) :
    (ignored.isSome = true ↔ tree.pathMap.BelowFile (here ++ components.map Name.ofString)) ∧
      (ignored.isSome = true → after = tree) := by
  cases added with
  | made way => exact ⟨⟨fun no => absurd no Bool.false_ne_true, fun below => absurd below way⟩,
      fun no => absurd no Bool.false_ne_true⟩
  | @blocked above rest component split more file =>
    obtain ⟨next, rest, rfl⟩ := List.exists_cons_of_ne_nil more
    have below := PathMap.belowFile_of_isFile file (.ofString next) (rest.map Name.ofString)
    have whole : here ++ components.map Name.ofString =
        here ++ (above ++ [component]).map Name.ofString ++
          .ofString next :: rest.map Name.ofString := by
      rw [split]
      simp
    rw [whole]
    exact ⟨⟨fun _ => below, fun _ => rfl⟩, fun _ => rfl⟩

/-! ## The law -/

theorem Wf.ignored_add (wf : tree.Wf) (addition : Addition) :
    ((tree.add addition).1.isSome = true ↔
      pathComponents addition.path = [] ∨ tree.pathMap.BelowFile (pathNames addition.path)) ∧
    ((tree.add addition).1.isSome = true → (tree.add addition).2 = tree) := by
  by_cases empty : pathComponents addition.path = []
  · have left : tree.add addition = (some (.emptyPath addition.path), tree) := by
      rw [Tree.add, empty]
      rfl
    rw [left]
    exact ⟨⟨fun _ => .inl empty, fun _ => rfl⟩, fun _ => rfl⟩
  · obtain ⟨blocked, kept⟩ := (wf.added_add addition empty).isSome_iff
    exact ⟨blocked.trans ⟨.inr, fun either => either.resolve_left empty⟩, kept⟩

/-- **What is left out changes nothing.** After any additions, a further one is left out exactly if
its path has no component or goes on below something other than a directory; and then the tree is
left as it was, also where directories on the way were missing. -/
theorem ignored_changes_nothing (additions : List Addition) (addition : Addition) :
    let tree := (rootOnly.addAll additions).2
    ((tree.add addition).1.isSome = true ↔
      pathComponents addition.path = [] ∨ tree.pathMap.BelowFile (pathNames addition.path)) ∧
    ((tree.add addition).1.isSome = true → (tree.add addition).2 = tree) :=
  (wf_rootOnly.addAll additions).ignored_add addition

/-- Below a file that took the place of a directory nothing is made, whatever the directory had
in it. -/
theorem ignored_changes_nothing_in_file :
    let tree := (rootOnly.addAll [.file "a/b/c" 1, .file "a/b" 2]).2
    (tree.add (.dir "a/b/d/e")).1 = some (.notADirectory "a/b/d/e" "b") ∧
      (tree.add (.dir "a/b/d/e")).2 = tree := by
  intro tree
  have left : (tree.add (.dir "a/b/d/e")).1 = some (.notADirectory "a/b/d/e" "b") := by decide
  obtain ⟨_, kept⟩ := ignored_changes_nothing [.file "a/b/c" 1, .file "a/b" 2] (.dir "a/b/d/e")
  exact ⟨left, kept (by rw [left]; rfl)⟩

/-! ## What is not left out -/

/-- What was added stands at its path, below directories only. -/
theorem Wf.get?_of_made (wf : tree.Wf) {addition : Addition}
    (made : (tree.add addition).1 = none) :
    pathNames addition.path ≠ [] ∧
      ¬ (tree.add addition).2.pathMap.BelowFile (pathNames addition.path) ∧
      (tree.add addition).2.pathMap.get? (pathNames addition.path) =
        some addition.attributes := by
  have goes : ¬ (pathComponents addition.path = [] ∨
      tree.pathMap.BelowFile (pathNames addition.path)) := by
    rw [← (wf.ignored_add addition).1, made]
    exact Bool.false_ne_true
  obtain ⟨someComponent, way⟩ := not_or.mp goes
  have nonempty : pathNames addition.path ≠ [] := mt List.map_eq_nil_iff.mp someComponent
  rw [wf.pathMap_add]
  exact ⟨nonempty, PathMap.not_belowFile_add_self nonempty way _,
    PathMap.get?_add_self nonempty way _⟩

end UserFs.Tree
