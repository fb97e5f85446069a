import Mathlib.Logic.ExistsUnique
import UserFs.Proofs.Tree.Shape

/-!
# Ancestors and kinds of nodes

What the shape of a tree comes to for each of its nodes:

* **the way down** — every node but the root has exactly one link to it (`Wf.existsUnique_link`),
  and every node has exactly one chain of names from the root (`Wf.existsUnique_descend?`): there is
  one, since links lead from older nodes to younger ones (`Wf.exists_descend?`);
* **the way up** — as many parents further as there are names in that chain is the root
  (`Wf.climb?_of_descend?`);
* **kinds** — if directories and files are all that is added, there is nothing else in the tree, and
  a change of size leaves the directories alone (`Plain.addAll`, `Plain.setSize`).
-/

namespace UserFs

/-- Whether attributes are those of a directory or of a regular file. -/
inductive Attributes.Plain : Attributes → Prop
  | directory : Plain .directory
  | regularFile (size : UInt64) : Plain (.regularFile size)

/-- Whether what is to be added is a directory or a file. -/
inductive Addition.Plain : Addition → Prop
  | dir (path : String) : Plain (.dir path)
  | file (path : String) (size : UInt64) : Plain (.file path size)

theorem Addition.Plain.attributes {addition : Addition} (plain : addition.Plain) :
    addition.attributes.Plain := by
  cases plain with
  | dir path => exact .directory
  | file path size => exact .regularFile size

namespace Tree

variable {tree : Tree} {parent key : NodeKey} {name : Name} {attributes : Attributes}

/-! ## The way down -/

theorem isSome_of_child? {child : NodeKey} (link : tree.child? parent name = some child) :
    (tree.attributes? parent).isSome := by
  obtain ⟨node, there, _⟩ := Option.bind_eq_some_iff.mp link
  rw [attributes?, there]
  rfl

/-- Every node but the root has exactly one link to it. -/
theorem Wf.existsUnique_link (wf : tree.Wf) (notRoot : key ≠ .root)
    (there : (tree.attributes? key).isSome) :
    ∃! link : NodeKey × Name, tree.child? link.1 link.2 = some key := by
  obtain ⟨parent, name, link⟩ := wf.reached key notRoot there
  refine ⟨(parent, name), link, ?_⟩
  rintro ⟨other, otherName⟩ otherLink
  have same : other = parent := Option.some.inj
    ((wf.linked other otherName key otherLink).symm.trans (wf.linked parent name key link))
  subst same
  rw [wf.oneName other otherName name key otherLink link]

theorem Wf.exists_descend? (wf : tree.Wf) (there : (tree.attributes? key).isSome) :
    ∃ names, tree.descend? .root names = some key := by
  -- the parent is older, so it was reached before
  induction age : key.index using Nat.strongRecOn generalizing key with
  | ind index ih =>
    by_cases isRoot : key = .root
    · subst isRoot
      exact ⟨[], rfl⟩
    · obtain ⟨parent, name, link⟩ := wf.reached key isRoot there
      have older : parent.index < index := age ▸ wf.older parent name key link
      obtain ⟨names, above⟩ := ih parent.index older (isSome_of_child? link) rfl
      refine ⟨names ++ [name], ?_⟩
      rw [descend?_concat, above, Option.bind_some, link]

/-- Every node has exactly one chain of names from the root. -/
theorem Wf.existsUnique_descend? (wf : tree.Wf) (there : (tree.attributes? key).isSome) :
    ∃! names, tree.descend? .root names = some key := by
  obtain ⟨names, found⟩ := wf.exists_descend? there
  exact ⟨names, found, fun other alsoFound => wf.path_unique alsoFound found⟩

/-! ## The way up -/

/-- The node that is so many parents further up. -/
def climb? (tree : Tree) : Nat → NodeKey → Option NodeKey
  | 0, key => some key
  | steps + 1, key => (tree.parent? key).bind (tree.climb? steps)

/-- The way up from a node is as long as its chain of names. -/
theorem Wf.climb?_of_descend? (wf : tree.Wf) {names : List Name}
    (found : tree.descend? .root names = some key) :
    tree.climb? names.length key = some .root := by
  induction names using List.reverseRecOn generalizing key with
  | nil =>
    cases found
    rfl
  | append_singleton above name ih =>
    rw [descend?_concat] at found
    obtain ⟨parent, upper, link⟩ := Option.bind_eq_some_iff.mp found
    rw [List.length_append, List.length_singleton, climb?, wf.linked parent name key link,
      Option.bind_some]
    exact ih upper

/-! ## Kinds -/

/-- Whether all nodes are directories or regular files. -/
def Plain (tree : Tree) : Prop :=
  ∀ key attributes, tree.attributes? key = some attributes → attributes.Plain

theorem plain_rootOnly : rootOnly.Plain := by
  intro key attributes there
  rw [attributes?, node?, rootOnly, Array.getElem?_singleton] at there
  split at there
  · cases there
    exact .directory
  · cases there

theorem Plain.setAttributes (plain : tree.Plain) (key : NodeKey) (kind : attributes.Plain) :
    (tree.setAttributes key attributes).Plain := by
  intro other found there
  rw [attributes?_setAttributes] at there
  split at there
  · obtain ⟨_, _, rfl⟩ := Option.map_eq_some_iff.mp there
    exact kind
  · exact plain other found there

theorem Plain.addChild (plain : tree.Plain) (parent : NodeKey) (name : Name)
    (kind : attributes.Plain) : (tree.addChild parent name attributes).2.Plain := by
  intro other found there
  rw [attributes?_addChild] at there
  split at there
  · cases there
    exact kind
  · exact plain other found there

/-- Where only directories and files are added there is nothing else. -/
theorem Plain.addAll (plain : tree.Plain) (wf : tree.Wf) {additions : List Addition}
    (described : ∀ addition ∈ additions, addition.Plain) : (tree.addAll additions).2.Plain := by
  apply wf.addAll_induction
  · intro _ parent component _ addition member _ kind _ before
    apply before.addChild
    rcases kind with rfl | rfl
    · exact .directory
    · exact (described addition member).attributes
  · intro _ key addition member before
    exact before.setAttributes key (described addition member).attributes
  · exact plain

/-- A file that gets another size is still a file. -/
theorem Plain.setSize (plain : tree.Plain) (there : tree.attributes? key = some attributes)
    (isFile : attributes.isDirectory = false) (size : UInt64) : (tree.setSize key size).Plain := by
  rw [setSize_eq_setAttributes there]
  apply plain.setAttributes
  cases plain key attributes there with
  | directory => cases isFile
  | regularFile old => exact .regularFile size

end Tree

end UserFs
