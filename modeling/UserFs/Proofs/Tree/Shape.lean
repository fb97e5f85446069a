import Mathlib.Data.List.Induction
import UserFs.Tree.Addition

/-!
# The shape of a tree

The nodes of a tree stand in one array, and a link between two of them is stored on either
side. That they make up a tree is an invariant:

* **nodes and links** — one lemma for each operation and each of `attributes?`, `parent?` and
  `child?` says what the operation does to it;
* **the shape** — `Wf`: the root is a directory and its own parent; a link leads from an older
  node to a younger one that knows it as its parent, under one name only; and every other node
  than the root has a link to it. Additions keep it (`Wf.addAll`), since a link is made only
  where there is none and to a node that is new; what else they keep of a tree follows from what
  a new child and other attributes do to it (`Wf.addAll_induction`);
* **paths** — the node at the end of a path is in the tree (`Wf.exists_attributes?`), and no
  other path leads to it (`Wf.path_unique`).
-/

namespace UserFs.Tree

/-! ## Nodes and links -/

/-- The attributes of a node. -/
def attributes? (tree : Tree) (key : NodeKey) : Option Attributes :=
  (tree.node? key).map (·.attributes)

/-- The parent of a node. -/
def parent? (tree : Tree) (key : NodeKey) : Option NodeKey := (tree.node? key).map (·.parent)

variable {tree : Tree} {parent key current : NodeKey} {name : Name} {attributes : Attributes}

theorem node?_nextKey (tree : Tree) : tree.node? tree.nextKey = none :=
  Array.getElem?_eq_none (Nat.le_refl _)

theorem node?_modifyNode (tree : Tree) (key : NodeKey) (change : Node → Node) (other : NodeKey) :
    (tree.modifyNode key change).node? other =
      if other = key then (tree.node? other).map change else tree.node? other := by
  cases key
  cases other
  rw [node?, modifyNode, Array.getElem?_modify]
  simp only [NodeKey.mk.injEq, eq_comm]
  rfl

theorem isSome_attributes? (tree : Tree) (key : NodeKey) :
    (tree.attributes? key).isSome = (tree.parent? key).isSome := by
  rw [attributes?, parent?, Option.isSome_map, Option.isSome_map]

theorem isSome_attributes?_iff : (tree.attributes? key).isSome ↔ key.index < tree.nodes.size := by
  rw [attributes?, Option.isSome_map, node?, isSome_getElem?]

theorem ne_nextKey (there : (tree.attributes? key).isSome) : key ≠ tree.nextKey := by
  rintro rfl
  exact Nat.lt_irrefl _ (isSome_attributes?_iff.mp there)

theorem child?_nextKey (tree : Tree) (name : Name) : tree.child? tree.nextKey name = none := by
  rw [child?, node?_nextKey]
  rfl

section

variable (tree key attributes)

theorem attributes?_setAttributes (other : NodeKey) :
    (tree.setAttributes key attributes).attributes? other =
      if other = key then (tree.attributes? other).map fun _ => attributes
      else tree.attributes? other := by
  rw [attributes?, setAttributes, node?_modifyNode]
  split
  · rw [attributes?, Option.map_map, Option.map_map]
    rfl
  · rfl

theorem parent?_setAttributes (other : NodeKey) :
    (tree.setAttributes key attributes).parent? other = tree.parent? other := by
  rw [parent?, setAttributes, node?_modifyNode]
  split
  · rw [parent?, Option.map_map]
    rfl
  · rfl

theorem child?_setAttributes (other : NodeKey) (name : Name) :
    (tree.setAttributes key attributes).child? other name = tree.child? other name := by
  rw [child?, setAttributes, node?_modifyNode]
  split
  · rw [child?, Option.bind_map]
    rfl
  · rfl

end

/-- To replace the size of a node is to replace its attributes by others of that size. -/
theorem setSize_eq_setAttributes (there : tree.attributes? key = some attributes)
    (size : UInt64) :
    tree.setSize key size = tree.setAttributes key { attributes with size := size } := by
  obtain ⟨node, present, rfl⟩ := Option.map_eq_some_iff.mp there
  refine congrArg Tree.mk (Array.ext_getElem? fun index => ?_)
  rw [Array.getElem?_modify, Array.getElem?_modify]
  split
  · next same =>
    subst same
    rw [show tree.nodes[key.index]? = some node from present]
    rfl
  · rfl

section

variable (tree parent name attributes)

/-- The new node is the one that had no key before; no other node gets another attribute or
parent. -/
theorem node?_addChild (key : NodeKey) :
    (tree.addChild parent name attributes).2.node? key =
      (if key = tree.nextKey then some ⟨parent, attributes, .empty⟩ else tree.node? key).map
        fun node =>
          if key = parent then { node with children := node.children.insert name tree.nextKey }
          else node := by
  have grown : (⟨tree.nodes.push ⟨parent, attributes, .empty⟩⟩ : Tree).node? key =
      if key = tree.nextKey then some ⟨parent, attributes, .empty⟩ else tree.node? key := by
    cases key
    rw [node?, Array.getElem?_push]
    simp only [nextKey, NodeKey.mk.injEq]
    rfl
  rw [addChild, node?_modifyNode, grown]
  split
  · rfl
  · exact Option.map_id'.symm

theorem attributes?_addChild (key : NodeKey) :
    (tree.addChild parent name attributes).2.attributes? key =
      if key = tree.nextKey then some attributes else tree.attributes? key := by
  rw [attributes?, node?_addChild, Option.map_map]
  split <;> split <;> rfl

theorem parent?_addChild (key : NodeKey) :
    (tree.addChild parent name attributes).2.parent? key =
      if key = tree.nextKey then some parent else tree.parent? key := by
  rw [parent?, node?_addChild, Option.map_map]
  split <;> split <;> rfl

end

theorem child?_addChild (there : (tree.attributes? parent).isSome) (name : Name)
    (attributes : Attributes) (key : NodeKey) (other : Name) :
    (tree.addChild parent name attributes).2.child? key other =
      if key = parent ∧ other = name then some tree.nextKey else tree.child? key other := by
  have old := ne_nextKey there
  rw [child?, node?_addChild]
  by_cases new : key = tree.nextKey
  · subst new
    rw [if_pos rfl, child?_nextKey, if_neg fun both => old both.1.symm, Option.map_some,
      if_neg old.symm]
    rfl
  · rw [if_neg new, Option.bind_map, child?]
    by_cases same : key = parent
    · subst same
      obtain ⟨node, present⟩ := Option.isSome_iff_exists.mp (Option.isSome_map.symm.trans there)
      simp only [present, Option.bind_some, Function.comp_apply, if_pos, true_and]
      exact KeyMap.get?_insert node.children name tree.nextKey other
    · simp only [same, false_and, if_false]
      rfl

/-! ## The shape -/

/-- The links of a tree make it one. -/
structure Wf (tree : Tree) : Prop where
  root : tree.attributes? .root = some .directory
  rootParent : tree.parent? .root = some .root
  linked : ∀ parent name child, tree.child? parent name = some child →
    tree.parent? child = some parent
  /-- Links lead to younger nodes, so no way down comes back. -/
  older : ∀ parent name child, tree.child? parent name = some child → parent.index < child.index
  oneName : ∀ parent first second child, tree.child? parent first = some child →
    tree.child? parent second = some child → first = second
  reached : ∀ child, child ≠ .root → (tree.attributes? child).isSome →
    ∃ parent name, tree.child? parent name = some child

theorem wf_rootOnly : rootOnly.Wf := by
  have childless : ∀ parent name child, rootOnly.child? parent name ≠ some child := by
    intro parent name child
    rw [child?, node?, rootOnly, Array.getElem?_singleton]
    split <;> exact (Option.some_ne_none child).symm
  refine ⟨rfl, rfl, ?_, ?_, ?_, ?_⟩
  · intro parent name child link
    exact absurd link (childless parent name child)
  · intro parent name child link
    exact absurd link (childless parent name child)
  · intro parent first second child link
    exact absurd link (childless parent first child)
  · intro child notRoot there
    have first : child.index = 0 := Nat.lt_one_iff.mp (isSome_attributes?_iff.mp there)
    exact absurd (congrArg NodeKey.mk first) notRoot

section

variable (wf : tree.Wf) {child : NodeKey}

include wf

theorem Wf.isSome_of_link (link : tree.child? parent name = some child) :
    (tree.attributes? child).isSome := by
  rw [isSome_attributes?, wf.linked parent name child link]
  rfl

theorem Wf.ne_root_of_link (link : tree.child? parent name = some child) : child ≠ .root := by
  rintro rfl
  exact absurd (wf.older parent name .root link) (Nat.not_lt_zero _)

theorem Wf.setAttributes (notRoot : key ≠ .root) (attributes : Attributes) :
    (tree.setAttributes key attributes).Wf where
  root := by
    rw [attributes?_setAttributes, if_neg notRoot.symm]
    exact wf.root
  rootParent := by
    rw [parent?_setAttributes]
    exact wf.rootParent
  linked parent name child := by
    rw [child?_setAttributes, parent?_setAttributes]
    exact wf.linked parent name child
  older parent name child := by
    rw [child?_setAttributes]
    exact wf.older parent name child
  oneName parent first second child := by
    rw [child?_setAttributes, child?_setAttributes]
    exact wf.oneName parent first second child
  reached child isChild there := by
    rw [isSome_attributes?, parent?_setAttributes, ← isSome_attributes?] at there
    simp only [child?_setAttributes]
    exact wf.reached child isChild there

/-- A link of the grown tree was there before, or is the one to the new node. -/
theorem Wf.link_of_addChild (there : (tree.attributes? parent).isSome) {start : NodeKey}
    {other : Name}
    (link : (tree.addChild parent name attributes).2.child? start other = some child) :
    start = parent ∧ other = name ∧ child = tree.nextKey ∨
      tree.child? start other = some child ∧ child ≠ tree.nextKey := by
  rw [child?_addChild there] at link
  split at link
  · next added => exact .inl ⟨added.1, added.2, (Option.some.inj link).symm⟩
  · exact .inr ⟨link, ne_nextKey (wf.isSome_of_link link)⟩

/-- A node may be added where there is none. -/
theorem Wf.addChild (there : (tree.attributes? parent).isSome)
    (free : tree.child? parent name = none) (attributes : Attributes) :
    (tree.addChild parent name attributes).2.Wf := by
  have rootOld : NodeKey.root ≠ tree.nextKey := ne_nextKey (by rw [wf.root]; rfl)
  constructor
  case root =>
    rw [attributes?_addChild, if_neg rootOld]
    exact wf.root
  case rootParent =>
    rw [parent?_addChild, if_neg rootOld]
    exact wf.rootParent
  case linked =>
    intro start other child link
    rw [parent?_addChild]
    rcases wf.link_of_addChild there link with ⟨rfl, _, new⟩ | ⟨before, old⟩
    · rw [if_pos new]
    · rw [if_neg old]
      exact wf.linked start other child before
  case older =>
    intro start other child link
    rcases wf.link_of_addChild there link with ⟨rfl, _, rfl⟩ | ⟨before, _⟩
    · exact isSome_attributes?_iff.mp there
    · exact wf.older start other child before
  case oneName =>
    intro start first second child one two
    rcases wf.link_of_addChild there one with ⟨_, rfl, new⟩ | ⟨before, old⟩
    · rcases wf.link_of_addChild there two with ⟨_, same, _⟩ | ⟨_, old⟩
      · exact same.symm
      · exact absurd new old
    · rcases wf.link_of_addChild there two with ⟨_, _, new⟩ | ⟨also, _⟩
      · exact absurd new old
      · exact wf.oneName start first second child before also
  case reached =>
    intro child isChild known
    simp only [child?_addChild there]
    rw [attributes?_addChild] at known
    split at known
    · next new => exact ⟨parent, name, by rw [if_pos ⟨rfl, rfl⟩, new]⟩
    · obtain ⟨start, other, link⟩ := wf.reached child isChild known
      refine ⟨start, other, ?_⟩
      rw [if_neg]
      · exact link
      -- where the new link is there was none
      · rintro ⟨rfl, rfl⟩
        exact absurd (free.symm.trans link) nofun

end

/-! ## Additions -/

/-- The child that is entered is in the tree, made before or just now. -/
theorem Wf.enter (wf : tree.Wf) (there : (tree.attributes? parent).isSome) (name : Name) :
    (tree.enter parent name).2.Wf ∧
      ((tree.enter parent name).2.attributes? (tree.enter parent name).1).isSome := by
  unfold Tree.enter
  split
  · next link => exact ⟨wf, wf.isSome_of_link link⟩
  · next free =>
    refine ⟨wf.addChild there free .directory, ?_⟩
    show ((tree.addChild parent name .directory).2.attributes? tree.nextKey).isSome
    rw [attributes?_addChild, if_pos rfl]
    rfl

theorem Wf.put (wf : tree.Wf) (there : (tree.attributes? parent).isSome) (name : Name)
    (attributes : Attributes) : (tree.put parent name attributes).Wf := by
  unfold Tree.put
  split
  · next link => exact wf.setAttributes (wf.ne_root_of_link link) attributes
  · next free => exact wf.addChild there free attributes

theorem addBelow_cons (addition : Addition) (component next : String) (rest : List String)
    (current : NodeKey) (tree : Tree) :
    addBelow addition (component :: next :: rest) current tree =
      let entered := tree.enter current (.ofString component)
      if entered.2.isDirectory entered.1 then addBelow addition (next :: rest) entered.1 entered.2
      else (some (.notADirectory addition.path component), entered.2) :=
  rfl

theorem Wf.addBelow (wf : tree.Wf) (there : (tree.attributes? current).isSome)
    (addition : Addition) (components : List String) :
    (tree.addBelow addition components current).2.Wf := by
  induction components generalizing current tree with
  | nil => exact wf
  | cons component rest ih =>
    cases rest with
    | nil => exact wf.put there (.ofString component) addition.attributes
    | cons next rest =>
      obtain ⟨entered, isThere⟩ := wf.enter there (.ofString component)
      rw [addBelow_cons]
      dsimp only
      split
      · exact ih entered isThere
      · exact entered

theorem Wf.add (wf : tree.Wf) (addition : Addition) : (tree.add addition).2.Wf :=
  wf.addBelow (by rw [wf.root]; rfl) addition _

/-- Whatever is added, it is a tree that comes of it. -/
theorem Wf.addAll (wf : tree.Wf) (additions : List Addition) : (tree.addAll additions).2.Wf := by
  induction additions generalizing tree with
  | nil => exact wf
  | cons addition rest ih => exact ih (wf.add addition)

section

variable {motive : Tree → Prop}

/-- What every new child and every change of attributes keeps holds after an addition. The children
are named by components of its path, and are directories on the way or what is added. -/
theorem Wf.addBelow_induction {addition : Addition} {components : List String}
    (grown : ∀ {tree : Tree} {parent : NodeKey} {component : String} {attributes : Attributes},
      component ∈ components → attributes = .directory ∨ attributes = addition.attributes →
      (tree.attributes? parent).isSome → motive tree →
      motive (tree.addChild parent (.ofString component) attributes).2)
    (changed : ∀ {tree : Tree} (key : NodeKey), motive tree →
      motive (tree.setAttributes key addition.attributes))
    (wf : tree.Wf) (there : (tree.attributes? current).isSome) (start : motive tree) :
    motive (tree.addBelow addition components current).2 := by
  induction components generalizing current tree with
  | nil => exact start
  | cons component rest ih =>
    cases rest with
    | nil =>
      show motive (tree.put current (.ofString component) addition.attributes)
      unfold Tree.put
      split
      · next child _ => exact changed child start
      · exact grown List.mem_cons_self (.inr rfl) there start
    | cons next rest =>
      have entered : motive (tree.enter current (.ofString component)).2 := by
        unfold Tree.enter
        split
        · exact start
        · exact grown List.mem_cons_self (.inl rfl) there start
      obtain ⟨wfEntered, isThere⟩ := wf.enter there (.ofString component)
      rw [addBelow_cons]
      dsimp only
      split
      · exact ih (fun member => grown (List.mem_cons_of_mem component member)) wfEntered isThere
          entered
      · exact entered

/-- What every new child and every change of attributes keeps holds after any additions. -/
theorem Wf.addAll_induction {additions : List Addition}
    (grown : ∀ {tree : Tree} {parent : NodeKey} {component : String} {attributes : Attributes},
      ∀ addition ∈ additions, component ∈ pathComponents addition.path →
      attributes = .directory ∨ attributes = addition.attributes →
      (tree.attributes? parent).isSome → motive tree →
      motive (tree.addChild parent (.ofString component) attributes).2)
    (changed : ∀ {tree : Tree} (key : NodeKey), ∀ addition ∈ additions, motive tree →
      motive (tree.setAttributes key addition.attributes))
    (wf : tree.Wf) (start : motive tree) : motive (tree.addAll additions).2 := by
  induction additions generalizing tree with
  | nil => exact start
  | cons addition rest ih =>
    have added : motive (tree.add addition).2 :=
      wf.addBelow_induction (grown addition List.mem_cons_self)
        (fun key => changed key addition List.mem_cons_self) (by rw [wf.root]; rfl) start
    exact ih (fun other member => grown other (List.mem_cons_of_mem addition member))
      (fun key other member => changed key other (List.mem_cons_of_mem addition member))
      (wf.add addition) added

end

/-! ## Paths -/

theorem descend?_append (tree : Tree) (key : NodeKey) (first second : List Name) :
    tree.descend? key (first ++ second) =
      (tree.descend? key first).bind fun next => tree.descend? next second := by
  induction first generalizing key with
  | nil => rfl
  | cons name rest ih =>
    rw [List.cons_append, descend?, descend?, Option.bind_assoc]
    exact Option.bind_congr fun next _ => ih next

theorem descend?_concat (tree : Tree) (key : NodeKey) (names : List Name) (name : Name) :
    tree.descend? key (names ++ [name]) =
      (tree.descend? key names).bind fun next => tree.child? next name := by
  rw [descend?_append]
  refine Option.bind_congr fun next _ => ?_
  rw [descend?]
  cases tree.child? next name <;> rfl

theorem descend?_setAttributes (tree : Tree) (key : NodeKey) (attributes : Attributes)
    (start : NodeKey) (names : List Name) :
    (tree.setAttributes key attributes).descend? start names = tree.descend? start names := by
  induction names generalizing start with
  | nil => rfl
  | cons name rest ih =>
    rw [descend?, descend?, child?_setAttributes]
    exact Option.bind_congr fun next _ => ih next

/-- The node at the end of a path is in the tree. -/
theorem Wf.exists_attributes? (wf : tree.Wf) {names : List Name}
    (found : tree.descend? .root names = some key) : (tree.attributes? key).isSome := by
  rcases List.eq_nil_or_concat names with rfl | ⟨above, name, rfl⟩
  · cases found
    rw [wf.root]
    rfl
  · rw [List.concat_eq_append, descend?_concat] at found
    obtain ⟨parent, _, link⟩ := Option.bind_eq_some_iff.mp found
    exact wf.isSome_of_link link

/-- No two paths lead to one node. -/
theorem Wf.path_unique (wf : tree.Wf) {first second : List Name}
    (one : tree.descend? .root first = some key) (two : tree.descend? .root second = some key) :
    first = second := by
  -- from their ends, the two paths go up through the same links
  induction first using List.reverseRecOn generalizing second key with
  | nil =>
    cases one
    rcases List.eq_nil_or_concat second with rfl | ⟨above, name, rfl⟩
    · rfl
    · rw [List.concat_eq_append, descend?_concat] at two
      obtain ⟨parent, _, link⟩ := Option.bind_eq_some_iff.mp two
      exact absurd rfl (wf.ne_root_of_link link)
  | append_singleton above name ih =>
    rw [descend?_concat] at one
    obtain ⟨parent, upper, link⟩ := Option.bind_eq_some_iff.mp one
    rcases List.eq_nil_or_concat second with rfl | ⟨otherAbove, other, rfl⟩
    · cases two
      exact absurd rfl (wf.ne_root_of_link link)
    · rw [List.concat_eq_append, descend?_concat] at two
      rw [List.concat_eq_append]
      obtain ⟨otherParent, otherUpper, otherLink⟩ := Option.bind_eq_some_iff.mp two
      have same : parent = otherParent := Option.some.inj
        ((wf.linked parent name key link).symm.trans (wf.linked otherParent other key otherLink))
      subst same
      rw [ih upper otherUpper, wf.oneName parent name other key link otherLink]

end UserFs.Tree
