import UserFs.Proofs.Tree.PathMap
import UserFs.Proofs.Tree.Shape

/-!
# A tree as a map from paths

`pathMap` is what a tree looks like from the outside, and what is done to the tree is done to
this map in one step:

* **one node** — every path has a node of its own, so new attributes and new nodes are seen at
  one path (`Wf.pathMap_setAttributes`, `Wf.pathMap_addChild`);
* **additions** — `Wf.pathMap_add`: following the names of an addition one by one, making
  directories on the way, comes to what the addition means for the map. The walk has reached a
  directory through directories, and what is left to add below it stays the same
  (`Wf.add_enter`);
* **sizes** — `Wf.pathMap_setSize`.
-/

namespace UserFs.Tree

/-! ## The map of a tree -/

/-- What stands at each path of a tree. -/
def pathMap (tree : Tree) : PathMap :=
  ⟨fun names => (tree.descend? .root names).bind tree.attributes?⟩

variable {tree : Tree} {here : List Name} {current key : NodeKey} {name : Name}

theorem get?_pathMap (tree : Tree) (names : List Name) :
    tree.pathMap.get? names = (tree.descend? .root names).bind tree.attributes? := rfl

theorem get?_of_descend? (found : tree.descend? .root here = some key) :
    tree.pathMap.get? here = tree.attributes? key := by
  rw [get?_pathMap, found, Option.bind_some]

/-- What stands at the next name is the child. -/
theorem get?_concat (found : tree.descend? .root here = some current) (name : Name) :
    tree.pathMap.get? (here ++ [name]) = (tree.child? current name).bind tree.attributes? := by
  rw [get?_pathMap, descend?_concat, found, Option.bind_some]

theorem pathMap_rootOnly : rootOnly.pathMap = .rootOnly := by
  ext1
  funext names
  cases names with
  | nil => rfl
  | cons name rest => rfl

section

variable (wf : tree.Wf)

include wf

theorem Wf.isSome_get? (names : List Name) :
    (tree.pathMap.get? names).isSome = (tree.descend? .root names).isSome := by
  rw [get?_pathMap]
  cases found : tree.descend? .root names with
  | none => rfl
  | some key => exact wf.exists_attributes? found

theorem Wf.closed : tree.pathMap.Closed := by
  rintro above names ⟨below, rfl⟩ there
  rw [wf.isSome_get?, descend?_append, Option.isSome_bind] at there
  rw [wf.isSome_get?]
  exact Option.isSome_of_any there

theorem Wf.passable_root : tree.pathMap.Passable [] := by
  intro above first
  refine ⟨.directory, ?_, rfl⟩
  rw [List.prefix_nil.mp first]
  exact wf.root

theorem Wf.pathMap_setAttributes (found : tree.descend? .root here = some key)
    (attributes : Attributes) :
    (tree.setAttributes key attributes).pathMap = tree.pathMap.set here attributes := by
  ext1
  funext names
  show (tree.setAttributes key attributes).pathMap.get? names =
    if names = here then some attributes else tree.pathMap.get? names
  rw [get?_pathMap, get?_pathMap, descend?_setAttributes]
  split
  · next isHere =>
    obtain ⟨old, there⟩ := Option.isSome_iff_exists.mp (wf.exists_attributes? found)
    rw [isHere, found, Option.bind_some, attributes?_setAttributes, if_pos rfl, there]
    rfl
  · next other =>
    refine Option.bind_congr fun found' present => ?_
    rw [attributes?_setAttributes, if_neg]
    rintro rfl
    exact other (wf.path_unique present found)

/-- The new node is at the end of one path, and the others lead where they led. -/
theorem Wf.descend?_addChild (found : tree.descend? .root here = some current)
    (free : tree.child? current name = none) (attributes : Attributes) (names : List Name) :
    (tree.addChild current name attributes).2.descend? .root names =
      if names = here ++ [name] then some tree.nextKey else tree.descend? .root names := by
  have there := wf.exists_attributes? found
  induction names using List.reverseRecOn with
  | nil => rw [if_neg (List.concat_ne_nil _ _).symm, descend?, descend?]
  | append_singleton above last ih =>
    have ends : above ++ [last] = here ++ [name] ↔ above = here ∧ last = name := by
      rw [← List.concat_eq_append, ← List.concat_eq_append, List.concat_inj]
    rw [descend?_concat, descend?_concat, ih]
    simp only [ends]
    by_cases new : above = here ++ [name]
    · -- the new node has no children, and there was none at its path to have one
      have below : ¬ (above = here ∧ last = name) := by
        rintro ⟨rfl, _⟩
        exact List.cons_ne_nil _ _ (List.self_eq_append_right.mp new)
      have other : ¬ (tree.nextKey = current ∧ last = name) := fun same =>
        ne_nextKey there same.1.symm
      have missing : tree.descend? .root above = none := by
        rw [new, descend?_concat, found, Option.bind_some, free]
      rw [if_pos new, if_neg below, Option.bind_some, child?_addChild there, if_neg other,
        child?_nextKey, missing, Option.bind_none]
    · rw [if_neg new]
      cases present : tree.descend? .root above with
      | none =>
        have notHere : ¬ (above = here ∧ last = name) := by
          rintro ⟨rfl, _⟩
          rw [present] at found
          cases found
        rw [if_neg notHere, Option.bind_none, Option.bind_none]
      | some next =>
        have same : next = current ↔ above = here := by
          constructor
          · rintro rfl
            exact wf.path_unique present found
          · rintro rfl
            exact Option.some.inj (present.symm.trans found)
        rw [Option.bind_some, Option.bind_some, child?_addChild there]
        simp only [same]

theorem Wf.pathMap_addChild (found : tree.descend? .root here = some current)
    (free : tree.child? current name = none) (attributes : Attributes) :
    (tree.addChild current name attributes).2.pathMap =
      tree.pathMap.set (here ++ [name]) attributes := by
  ext1
  funext names
  show (tree.addChild current name attributes).2.pathMap.get? names =
    if names = here ++ [name] then some attributes else tree.pathMap.get? names
  rw [get?_pathMap, get?_pathMap, wf.descend?_addChild found free attributes]
  split
  · rw [Option.bind_some, attributes?_addChild, if_pos rfl]
  · refine Option.bind_congr fun key present => ?_
    rw [attributes?_addChild, if_neg (ne_nextKey (wf.exists_attributes? present))]

/-- The child that is entered stands at the next name. -/
theorem Wf.descend?_enter (found : tree.descend? .root here = some current) (name : Name) :
    (tree.enter current name).2.descend? .root (here ++ [name]) =
      some (tree.enter current name).1 := by
  unfold Tree.enter
  split
  · next link => rw [descend?_concat, found, Option.bind_some, link]
  · next free => rw [wf.descend?_addChild found free, if_pos rfl]; rfl

theorem Wf.passable_enter (found : tree.descend? .root here = some current)
    (passable : tree.pathMap.Passable here) (name : Name) :
    (tree.enter current name).2.pathMap.Passable here := by
  unfold Tree.enter
  split
  · exact passable
  · next free =>
    rw [wf.pathMap_addChild found free]
    exact passable.set name .directory

/-- Nothing is lost of an addition by entering the next directory on its way. -/
theorem Wf.add_enter (found : tree.descend? .root here = some current)
    (passable : tree.pathMap.Passable here) (name : Name) {rest : List Name} (more : rest ≠ [])
    (attributes : Attributes) :
    (tree.enter current name).2.pathMap.add (here ++ name :: rest) attributes =
      tree.pathMap.add (here ++ name :: rest) attributes := by
  unfold Tree.enter
  split
  · rfl
  · next free =>
    rw [wf.pathMap_addChild found free]
    refine passable.add_below_missing wf.closed ?_ more attributes
    rw [get?_concat found, free, Option.bind_none]

theorem Wf.pathMap_put (found : tree.descend? .root here = some current)
    (passable : tree.pathMap.Passable here) (name : Name) (attributes : Attributes) :
    (tree.put current name attributes).pathMap =
      tree.pathMap.add (here ++ [name]) attributes := by
  rw [passable.add_concat]
  unfold Tree.put
  split
  · next child link =>
    have below : tree.descend? .root (here ++ [name]) = some child := by
      rw [descend?_concat, found, Option.bind_some, link]
    exact wf.pathMap_setAttributes below attributes
  · next free => exact wf.pathMap_addChild found free attributes

end

theorem isDirectory_eq (tree : Tree) (key : NodeKey) :
    tree.isDirectory key = (tree.attributes? key).any Attributes.isDirectory := by
  rw [isDirectory, attributes?, Option.any_map]

theorem Wf.pathMap_addBelow (wf : tree.Wf) (found : tree.descend? .root here = some current)
    (passable : tree.pathMap.Passable here) (addition : Addition) {components : List String}
    (nonempty : components ≠ []) :
    (tree.addBelow addition components current).2.pathMap =
      tree.pathMap.add (here ++ components.map Name.ofString) addition.attributes := by
  induction components generalizing here current tree with
  | nil => exact absurd rfl nonempty
  | cons component rest ih =>
    cases rest with
    | nil => exact wf.pathMap_put found passable (.ofString component) addition.attributes
    | cons next rest =>
      let name : Name := .ofString component
      obtain ⟨wfEntered, there⟩ := wf.enter (wf.exists_attributes? found) name
      have below := wf.descend?_enter found name
      obtain ⟨attributes, known⟩ := Option.isSome_iff_exists.mp there
      have stands := (get?_of_descend? below).trans known
      have kept := wf.add_enter found passable name
        (List.cons_ne_nil (Name.ofString next) (rest.map Name.ofString)) addition.attributes
      rw [addBelow_cons]
      dsimp only
      rw [isDirectory_eq, known, Option.any_some]
      cases directory : attributes.isDirectory with
      | true =>
        have further := (wf.passable_enter found passable name).concat stands directory
        have inside := ih wfEntered below further (List.cons_ne_nil next rest)
        rw [List.append_assoc] at inside
        exact inside.trans kept
      | false =>
        have file : (tree.enter current name).2.pathMap.isFile (here ++ [name]) = true := by
          rw [PathMap.isFile_of_get? stands, directory]
          rfl
        have left := PathMap.add_below_isFile file (.ofString next) (rest.map Name.ofString)
          addition.attributes
        rw [List.append_assoc] at left
        exact left.symm.trans kept

/-- An addition to a tree is an addition to its map. -/
theorem Wf.pathMap_add (wf : tree.Wf) (addition : Addition) :
    (tree.add addition).2.pathMap =
      tree.pathMap.add (pathNames addition.path) addition.attributes := by
  by_cases empty : pathComponents addition.path = []
  · rw [Tree.add, pathNames, empty, PathMap.add, if_pos (.inl rfl)]
    rfl
  · exact wf.pathMap_addBelow rfl wf.passable_root addition empty

theorem Wf.pathMap_addAll (wf : tree.Wf) (additions : List Addition) :
    (tree.addAll additions).2.pathMap = tree.pathMap.addAll additions := by
  induction additions generalizing tree with
  | nil => rfl
  | cons addition rest ih =>
    have later := ih (wf.add addition)
    rw [wf.pathMap_add addition] at later
    exact later

/-! ## Sizes -/

theorem Wf.setSize (wf : tree.Wf) {attributes : Attributes}
    (there : tree.attributes? key = some attributes) (isFile : attributes.isDirectory = false)
    (size : UInt64) : (tree.setSize key size).Wf := by
  rw [setSize_eq_setAttributes there]
  refine wf.setAttributes ?_ _
  -- the root is a directory
  rintro rfl
  rw [wf.root] at there
  cases there
  cases isFile

theorem Wf.pathMap_setSize (wf : tree.Wf) {attributes : Attributes}
    (found : tree.descend? .root here = some key)
    (there : tree.attributes? key = some attributes) (size : UInt64) :
    (tree.setSize key size).pathMap =
      tree.pathMap.set here { attributes with size := size } := by
  rw [setSize_eq_setAttributes there]
  exact wf.pathMap_setAttributes found _

end UserFs.Tree
