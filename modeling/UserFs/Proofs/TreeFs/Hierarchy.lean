import UserFs.Proofs.Tree.Ancestry
import UserFs.Proofs.TreeFs.Lookups

/-!
# The hierarchy of a filesystem in use

Of a tree, actions change nothing but the sizes of files (`tree_perform_cases`). So whatever is done
with a filesystem, its nodes are what the additions made of them: directories and files
(`plain_inUse`) in one hierarchy below the root, each in one place (`one_hierarchy`).
-/

namespace UserFs.TreeFs

/-- An action leaves directories and files what they are. -/
theorem plain_perform {fs : TreeFs} (plain : fs.tree.Plain) (action : Action) :
    (fs.perform action).2.tree.Plain := by
  rcases fs.tree_perform_cases action with same | ⟨key, node, size, there, isFile, resized⟩
  · rw [same]
    exact plain
  · have known : fs.tree.attributes? key = some node.attributes := by
      rw [Tree.attributes?, there, Option.map_some]
    rw [resized]
    exact plain.setSize known isFile size

theorem plain_inUse {additions : List Addition}
    (described : ∀ addition ∈ additions, addition.Plain) (policy : CachePolicy)
    (config : Inode.TableConfig) (hash : NodeKey → UInt64) (context : Context)
    (repliedAt : Instant) (actions : List Action) :
    (inUse additions policy config hash context repliedAt actions).tree.Plain := by
  apply inUse_induction (motive := fun fs => fs.tree.Plain)
  · exact Tree.plain_rootOnly.addAll Tree.wf_rootOnly described
  · intro fs action plain
    exact plain_perform plain action

/-- **The nodes make up one hierarchy.** After any additions of directories and files, and any actions
since, the keys of the nodes are those below the next one. A link leads to a node other than the
root, which has the node where the link starts as its parent, and its name spells a text that is not
empty and has no slash. The root is a directory of size zero and its own parent, and every other node
has exactly one link to it. There is exactly one chain of names from the root to each node, and as
many parents up from the node is the root. Every node is a directory, of size zero, or a regular
file. -/
theorem one_hierarchy (additions : List Addition)
    (described : ∀ addition ∈ additions, addition.Plain) (policy : CachePolicy)
    (config : Inode.TableConfig) (hash : NodeKey → UInt64) (context : Context)
    (repliedAt : Instant) (actions : List Action) :
    let tree := (inUse additions policy config hash context repliedAt actions).tree
    (∀ key, (tree.node? key).isSome ↔ key.index < tree.nextKey.index) ∧
    (∀ parent name child, tree.child? parent name = some child →
      (tree.node? child).isSome ∧ tree.parent? child = some parent ∧ child ≠ .root ∧
        name.bytes ≠ [] ∧ name.bytes.toByteArray.IsValidUTF8 ∧ 0x2f ∉ name.bytes) ∧
    tree.attributes? .root = some ⟨0, .directory⟩ ∧
    tree.parent? .root = some .root ∧
    (∀ key, key ≠ .root → (tree.node? key).isSome →
      ∃! link : NodeKey × Name, tree.child? link.1 link.2 = some key) ∧
    (∀ key, (tree.node? key).isSome →
      (∃! names, tree.descend? .root names = some key) ∧
      ∀ names, tree.descend? .root names = some key →
        tree.climb? names.length key = some .root) ∧
    ∀ key attributes, tree.attributes? key = some attributes →
      attributes = ⟨0, .directory⟩ ∨ ∃ size, attributes = ⟨size, .regularFile⟩ := by
  intro tree
  have wf : tree.Wf := (wf_inUse additions policy config hash context repliedAt actions).tree
  have spelled : tree.Spelled :=
    spelled_inUse additions policy config hash context repliedAt actions
  have plain : tree.Plain :=
    plain_inUse described policy config hash context repliedAt actions
  have known : ∀ key, (tree.node? key).isSome = (tree.attributes? key).isSome :=
    Tree.isSome_node?_eq tree
  refine ⟨?_, ?_, wf.root, wf.rootParent, ?_, ?_, ?_⟩
  · intro key
    rw [known]
    exact Tree.isSome_attributes?_iff
  · intro parent name child link
    have component := spelled parent name child link
    rw [known]
    exact ⟨wf.isSome_of_link link, wf.linked parent name child link, wf.ne_root_of_link link,
      component.bytes_ne_nil, component.isValidUtf8, component.slash_notMem⟩
  · intro key notRoot there
    rw [known] at there
    exact wf.existsUnique_link notRoot there
  · intro key there
    rw [known] at there
    exact ⟨wf.existsUnique_descend? there, fun names found => wf.climb?_of_descend? found⟩
  · intro key attributes there
    cases plain key attributes there with
    | directory => exact .inl rfl
    | regularFile size => exact .inr ⟨size, rfl⟩

/-- The file `c` still hangs below `b` when `b` has become a file, and has got another size: three
parents further up from it is the root. -/
theorem one_hierarchy_below_file :
    let additions : List Addition := [.file "a/b/c" 1, .dir "a/d", .file "a/b" 2]
    let tree := (inUse additions .disabled ⟨1, true⟩ (fun _ => 0) ⟨⟨1, 0, 0, 0⟩, .epoch⟩ .epoch
      [.resize "a/b/c" 9, .resize "a/d" 9]).tree
    (∀ addition ∈ additions, addition.Plain) ∧
      tree.descend? .root [.ofString "a", .ofString "b", .ofString "c"] = some ⟨3⟩ ∧
      tree.attributes? ⟨3⟩ = some (.regularFile 9) ∧
      tree.climb? 3 ⟨3⟩ = some .root ∧
      ∃! link : NodeKey × Name, tree.child? link.1 link.2 = some ⟨3⟩ := by
  intro additions tree
  have described : ∀ addition ∈ additions, addition.Plain := by
    intro addition member
    simp only [additions, List.mem_cons, List.not_mem_nil, or_false] at member
    rcases member with rfl | rfl | rfl
    · exact .file "a/b/c" 1
    · exact .dir "a/d"
    · exact .file "a/b" 2
  obtain ⟨_, _, _, _, links, chains, _⟩ := one_hierarchy additions described .disabled
    ⟨1, true⟩ (fun _ => 0) ⟨⟨1, 0, 0, 0⟩, .epoch⟩ .epoch [.resize "a/b/c" 9, .resize "a/d" 9]
  have found : tree.descend? .root [.ofString "a", .ofString "b", .ofString "c"] = some ⟨3⟩ := by
    decide
  have there : (tree.node? ⟨3⟩).isSome := by decide
  have size : tree.attributes? ⟨3⟩ = some (.regularFile 9) := by decide
  have up := (chains ⟨3⟩ there).2 _ found
  exact ⟨described, found, size, up, links ⟨3⟩ (by decide) there⟩

end UserFs.TreeFs
