import UserFs.Proofs.Tree.Shape

/-!
# How the children of a tree are named

Every child was once a component of a path, so its name spells a text which is not empty and has no
slash in it:

* **names** — what `Name.IsComponent` says of the bytes: there is at least one, they are UTF-8
  (`IsComponent.isValidUtf8`), and none is that of a slash (`IsComponent.slash_notMem`), as the
  bytes of other characters are different or 128 at least;
* **trees** — `Spelled` says that all children are named so. Only additions make links, and they
  name them by the components of their paths (`Spelled.addAll`).
-/

namespace UserFs

/-! ## Names -/

/-- Whether a name can be a component of a path. -/
def Name.IsComponent (name : Name) : Prop :=
  ∃ text : String, name = .ofString text ∧ text.toList ≠ [] ∧ '/' ∉ text.toList

/-- What stands between separators has none. -/
theorem separator_notMem_of_mem_splitOn {separator : Char} {letters piece : List Char}
    (member : piece ∈ letters.splitOn separator) : separator ∉ piece := by
  rw [List.splitOn_eq_splitOnP] at member
  induction letters generalizing piece with
  | nil =>
    rw [List.splitOnP_nil, List.mem_singleton] at member
    rw [member]
    exact List.not_mem_nil
  | cons letter rest ih =>
    rw [List.splitOnP_cons_eq_if_modifyHead] at member
    split at member
    · rcases List.mem_cons.mp member with rfl | later
      · exact List.not_mem_nil
      · exact ih later
    · next other =>
      -- the letter goes to the front of the first piece
      cases pieces : rest.splitOnP (· == separator) with
      | nil => exact absurd pieces (List.splitOnP_ne_nil _ rest)
      | cons first others =>
        rw [pieces, List.modifyHead_cons] at member
        rw [pieces] at ih
        rcases List.mem_cons.mp member with rfl | later
        · rw [List.mem_cons, not_or]
          refine ⟨?_, ih List.mem_cons_self⟩
          rintro rfl
          exact other (beq_self_eq_true _)
        · exact ih (List.mem_cons_of_mem first later)

theorem isComponent_of_mem_pathComponents {path component : String}
    (member : component ∈ pathComponents path) : (Name.ofString component).IsComponent := by
  obtain ⟨piece, kept, rfl⟩ := List.mem_map.mp member
  obtain ⟨there, nonempty⟩ := List.mem_filter.mp kept
  refine ⟨String.ofList piece, rfl, ?_, ?_⟩
  · rw [String.toList_ofList]
    simpa using nonempty
  · rw [String.toList_ofList]
    exact separator_notMem_of_mem_splitOn there

/-- Beyond the first 128 characters, no byte of a character is one of those. -/
theorem le_toNat_of_mem_utf8EncodeChar {character : Char} {byte : UInt8}
    (beyond : 0x7f < character.val.toNat) (member : byte ∈ String.utf8EncodeChar character) :
    0x80 ≤ byte.toNat := by
  -- a byte of several has its highest bit set, wherever it stands
  have high : ∀ low mark, 0x80 ≤ mark → low + mark < 0x100 →
      byte = UInt8.ofNat (low + mark) → 0x80 ≤ byte.toNat := by
    intro low mark marked small same
    rw [same, UInt8.toNat_ofNat_of_lt' small]
    omega
  rw [String.utf8EncodeChar, if_neg (Nat.not_le.mpr beyond)] at member
  split at member
  · simp only [List.mem_cons, List.not_mem_nil, or_false] at member
    rcases member with lead | last
    · exact high _ _ (by decide) (by omega) lead
    · exact high _ _ (by decide) (by omega) last
  · split at member
    · simp only [List.mem_cons, List.not_mem_nil, or_false] at member
      rcases member with lead | second | last
      · exact high _ _ (by decide) (by omega) lead
      · exact high _ _ (by decide) (by omega) second
      · exact high _ _ (by decide) (by omega) last
    · simp only [List.mem_cons, List.not_mem_nil, or_false] at member
      rcases member with lead | second | third | last
      · exact high _ _ (by decide) (by omega) lead
      · exact high _ _ (by decide) (by omega) second
      · exact high _ _ (by decide) (by omega) third
      · exact high _ _ (by decide) (by omega) last

/-- The byte of a slash is in the encoding of no other character. -/
theorem eq_slash_of_mem_utf8EncodeChar {character : Char}
    (member : 0x2f ∈ String.utf8EncodeChar character) : character = '/' := by
  by_cases beyond : 0x7f < character.val.toNat
  · exact absurd (le_toNat_of_mem_utf8EncodeChar beyond member) (by decide)
  · have single : String.utf8EncodeChar character = [UInt8.ofNat character.val.toNat] :=
      if_pos (Nat.not_lt.mp beyond)
    rw [single, List.mem_singleton] at member
    have code := congrArg UInt8.toNat member
    rw [UInt8.toNat_ofNat_of_lt' (show character.val.toNat < 0x100 by omega)] at code
    exact Char.ext (UInt32.toNat_inj.mp code.symm)

namespace Name.IsComponent

variable {name : Name}

theorem bytes_ne_nil (component : name.IsComponent) : name.bytes ≠ [] := by
  obtain ⟨text, rfl, nonempty, _⟩ := component
  obtain ⟨first, rest, letters⟩ := List.exists_cons_of_ne_nil nonempty
  obtain ⟨byte, more, bytes, _⟩ := Text.Utf8.exists_utf8EncodeChar_eq_cons first
  show Text.Utf8.encodeChars text.toList ≠ []
  rw [letters, Text.Utf8.encodeChars, List.flatMap_cons, bytes]
  exact List.cons_ne_nil _ _

theorem slash_notMem (component : name.IsComponent) : 0x2f ∉ name.bytes := by
  obtain ⟨text, rfl, _, noSlash⟩ := component
  intro member
  obtain ⟨character, there, byte⟩ := List.mem_flatMap.mp member
  rw [eq_slash_of_mem_utf8EncodeChar byte] at there
  exact noSlash there

theorem isValidUtf8 (component : name.IsComponent) : name.bytes.toByteArray.IsValidUTF8 := by
  obtain ⟨text, rfl, _⟩ := component
  exact ⟨text.toList, rfl⟩

end Name.IsComponent

/-! ## Trees -/

namespace Tree

variable {tree : Tree} {parent : NodeKey}

/-- Whether all children are named by components of paths. -/
def Spelled (tree : Tree) : Prop :=
  ∀ parent name child, tree.child? parent name = some child → name.IsComponent

theorem spelled_rootOnly : rootOnly.Spelled := by
  intro parent name child link
  rw [child?, node?, rootOnly, Array.getElem?_singleton] at link
  split at link <;> cases link

/-- Where the links stay, so do their names. -/
theorem Spelled.of_child? (spelled : tree.Spelled) {after : Tree}
    (same : ∀ parent name, after.child? parent name = tree.child? parent name) :
    after.Spelled := by
  intro parent name child link
  rw [same] at link
  exact spelled parent name child link

theorem child?_setSize (tree : Tree) (key : NodeKey) (size : UInt64) (other : NodeKey)
    (name : Name) : (tree.setSize key size).child? other name = tree.child? other name := by
  rw [child?, setSize, node?_modifyNode]
  split
  · rw [child?, Option.bind_map]
    rfl
  · rfl

theorem Spelled.addChild (spelled : tree.Spelled) (there : (tree.attributes? parent).isSome)
    {name : Name} (component : name.IsComponent) (attributes : Attributes) :
    (tree.addChild parent name attributes).2.Spelled := by
  intro start other child link
  rw [child?_addChild there] at link
  split at link
  · next added =>
    rw [added.2]
    exact component
  · exact spelled start other child link

/-- Whatever is added, its children are named by components of paths. -/
theorem Spelled.addAll (spelled : tree.Spelled) (wf : tree.Wf) (additions : List Addition) :
    (tree.addAll additions).2.Spelled := by
  apply wf.addAll_induction
  · intro _ _ _ attributes addition _ member _ there before
    exact before.addChild there (isComponent_of_mem_pathComponents member) attributes
  · intro before key addition _ kept
    exact kept.of_child? (child?_setAttributes before key addition.attributes)
  · exact spelled

end Tree

end UserFs
