import UserFs.Proofs.Tree.Ignored
import UserFs.Proofs.TreeFs.Paths

/-!
# Additions that can be looked up

What an addition puts at a path is found there by the kernel, one name after another
(`added_found`): the tree has it there, below directories only (`Tree.Wf.get?_of_made`), and the
filesystem answers lookups from the map of its tree (`Mirrors.walk`).

An addition takes every component of its path for a name, while a lookup gives `.` and `..` a
meaning of their own. So what is added at a path with such a component is not found in general
(`not_every_addition_found`).
-/

namespace UserFs.TreeFs

theorem exists_of_attributesOf {result : Except Refusal (List Entry)} {shown : List Attributes}
    (same : attributesOf result = .ok shown) :
    ∃ entries, result = .ok entries ∧ entries.map Entry.attributes = shown := by
  cases result with
  | error refusal => cases same
  | ok entries => exact ⟨entries, rfl, Except.ok.inj same⟩

/-- **What was added can be looked up.** When a further addition after any others is not left out,
the filesystem that is made then finds every component of its path in the one before, and ends
with the attributes that were added, if none of the components is `.` or `..`. The lookups are
refused only if the path has as many components as a shard has inode numbers. -/
theorem added_found (additions : List Addition) (addition : Addition)
    (made : ((Tree.rootOnly.addAll additions).2.add addition).1 = none)
    (steps : List (Instant × Name)) (names : steps.map Prod.snd = pathNames addition.path)
    (ordinary : ∀ component ∈ pathComponents addition.path, component ≠ "." ∧ component ≠ "..")
    (policy : CachePolicy) (config : Inode.TableConfig) (hash : NodeKey → UInt64) :
    let fs := ofTree ((Tree.rootOnly.addAll additions).2.add addition).2 policy config hash
    (∃ entries, fs.walk .root steps = .ok entries ∧
        entries.getLast?.map Entry.attributes = some addition.attributes) ∨
      fs.walk .root steps = .error .numbersExhausted ∧
        UInt64.size ≤ steps.length * max config.shards 1 + 1 := by
  intro fs
  have wf := Tree.wf_rootOnly.addAll additions
  obtain ⟨nonempty, way, stands⟩ := wf.get?_of_made made
  obtain ⟨shown, answer, last⟩ := PathMap.getLast?_lookUp nonempty way stands
  have ordinaryNames : ∀ step ∈ steps, step.2 ≠ .dot ∧ step.2 ≠ .dotDot := fun step member =>
    ordinary_of_components ordinary step.2 (names ▸ List.mem_map_of_mem member)
  have mirrors := mirrors_ofTree (wf.add addition) policy config hash
  rcases mirrors.walk mirrors.reached_root ordinaryNames with same | ⟨refused, used⟩
  · rw [names, answer] at same
    obtain ⟨entries, found, attributes⟩ := exists_of_attributesOf same
    refine .inl ⟨entries, found, ?_⟩
    rw [← List.getLast?_map, attributes]
    exact last
  · rw [Nat.zero_add] at used
    exact .inr ⟨refused, used⟩

/-- The file `a`, put in the place of a directory, is what is found. -/
theorem added_found_in_place :
    let fs := ofTree ((Tree.rootOnly.addAll [.file "a/b" 5]).2.add (.file "a" 7)).2 .disabled
      ⟨1, true⟩ (fun _ => 0)
    ∃ entries, fs.walk .root [(.epoch, .ofString "a")] = .ok entries ∧
      entries.getLast?.map Entry.attributes = some (.regularFile 7) := by
  intro fs
  have found := added_found [.file "a/b" 5] (.file "a" 7) (by decide)
    [(.epoch, .ofString "a")] (by decide) (by decide) .disabled ⟨1, true⟩ (fun _ => 0)
  rcases found with found | ⟨_, used⟩
  · exact found
  · exact absurd used (by decide)

/-- A file `x` in a directory that was added by the name `.` is not found: a lookup of `.` stays in
the root, which has no `x`. -/
theorem not_every_addition_found : ¬ ∀ (additions : List Addition) (addition : Addition)
    (steps : List (Instant × Name)) (policy : CachePolicy) (config : Inode.TableConfig)
    (hash : NodeKey → UInt64),
    ((Tree.rootOnly.addAll additions).2.add addition).1 = none →
    steps.map Prod.snd = pathNames addition.path →
    steps.length * max config.shards 1 + 1 < UInt64.size →
    let fs := ofTree ((Tree.rootOnly.addAll additions).2.add addition).2 policy config hash
    ∃ entries, fs.walk .root steps = .ok entries ∧
      entries.getLast?.map Entry.attributes = some addition.attributes := by
  intro every
  obtain ⟨entries, found, _⟩ := every [] (.file "./x" 1)
    [(.epoch, .dot), (.epoch, .ofString "x")] .disabled ⟨1, true⟩ (fun _ => 0) (by decide)
    (by decide) (by decide)
  have refused : ((ofTree ((Tree.rootOnly.addAll []).2.add (.file "./x" 1)).2 .disabled ⟨1, true⟩
      (fun _ => 0)).walk .root [(.epoch, .dot), (.epoch, .ofString "x")]).toOption = none := by
    decide
  rw [found] at refused
  cases refused

end UserFs.TreeFs
