import Mathlib.Data.List.Infix
import UserFs.Error
import UserFs.Tree.Addition

/-!
# Maps from paths

From the outside, a tree is a map from paths to attributes. `PathMap` says what an addition, a
change of size and a series of lookups mean for such a map in one step each, by cases on what
stands at the prefixes of a path.

A tree is followed from link to link instead, so each of them is also taken apart by the names of
the path: where a directory is reached through directories (`Passable`), an addition goes on
below the next name (`Passable.add_concat`, `Passable.add_below_missing`, `add_below_isFile`),
and so do lookups (`lookUp_cons`, `Passable.lookUp_of_missing`, `lookUp_of_isFile`).

What an addition leaves at its own path is said as a whole (`get?_add_self`,
`not_belowFile_add_self`), and so is what lookups end with (`getLast?_lookUp`).
-/

namespace UserFs

/-- The names that a path leads through. -/
def pathNames (path : String) : List Name := (pathComponents path).map Name.ofString

/-- What stands at each path; the path without names is the root's. -/
@[ext]
structure PathMap where
  get? : List Name → Option Attributes

namespace PathMap

/-- A root without anything below it. -/
def rootOnly : PathMap := ⟨fun names => if names = [] then some .directory else none⟩

/-- Whether something other than a directory stands at a path. -/
def isFile (map : PathMap) (names : List Name) : Bool :=
  (map.get? names).any fun attributes => !attributes.isDirectory

/-- Whether a path goes on below something other than a directory. -/
def BelowFile (map : PathMap) (names : List Name) : Prop :=
  ∃ above ∈ names.inits, above ≠ names ∧ map.isFile above = true

instance (map : PathMap) (names : List Name) : Decidable (map.BelowFile names) :=
  inferInstanceAs (Decidable (∃ above ∈ names.inits, above ≠ names ∧ map.isFile above = true))

/-- Puts attributes at one path. -/
def set (map : PathMap) (names : List Name) (attributes : Attributes) : PathMap :=
  ⟨fun other => if other = names then some attributes else map.get? other⟩

/-- Puts attributes at a path, and directories where there is nothing on the way. A path that
has no name, or leads through something other than a directory, is left out. -/
def add (map : PathMap) (names : List Name) (attributes : Attributes) : PathMap :=
  if names = [] ∨ map.BelowFile names then map
  else
    ⟨fun other =>
      if other = names then some attributes
      else if other <+: names then (map.get? other).or (some .directory)
      else map.get? other⟩

/-- The map with additions made in order. -/
def addAll (map : PathMap) (additions : List Addition) : PathMap :=
  additions.foldl (fun map addition => map.add (pathNames addition.path) addition.attributes) map

/-- Changes the size of what stands at a path, unless it is a directory. -/
def resize (map : PathMap) (names : List Name) (size : UInt64) :
    Except ErrorKind Unit × PathMap :=
  match map.get? names with
  | none => (.error .notFound, map)
  | some attributes =>
    if attributes.isDirectory then (.error .inputOutput, map)
    else (.ok (), map.set names { attributes with size := size })

/-- Whether what names show ends with something other than a directory. -/
def endsOnFile : Except ErrorKind (List Attributes) → Bool
  | .ok shown => shown.getLast?.any fun attributes => !attributes.isDirectory
  | .error _ => false

/-- What names show that are looked up one below the other, the first one at `start`: the
attributes at each of them, if there is something at the last and directories above. -/
def lookUp (map : PathMap) (start names : List Name) : Except ErrorKind (List Attributes) :=
  if map.BelowFile (start ++ names) then .error .notADirectory
  else if map.get? (start ++ names) = none then .error .notFound
  else .ok (names.inits.tail.filterMap fun before => map.get? (start ++ before))

/-! ## On the way to a path -/

/-- What stands at a path stands below something. -/
def Closed (map : PathMap) : Prop :=
  ∀ above names, above <+: names → (map.get? names).isSome → (map.get? above).isSome

/-- Whether there is a directory at a path, reached through directories. -/
def Passable (map : PathMap) (here : List Name) : Prop :=
  ∀ above, above <+: here →
    ∃ attributes, map.get? above = some attributes ∧ attributes.isDirectory = true

variable {map : PathMap} {here : List Name} {name : Name} {attributes : Attributes}

theorem belowFile_iff {names : List Name} :
    map.BelowFile names ↔ ∃ above, above <+: names ∧ above ≠ names ∧ map.isFile above = true := by
  simp only [BelowFile, List.mem_inits]

theorem isFile_of_get? {names : List Name} (there : map.get? names = some attributes) :
    map.isFile names = !attributes.isDirectory := by
  rw [isFile, there]
  rfl

theorem Passable.not_isFile (passable : map.Passable here) {above : List Name}
    (first : above <+: here) : ¬ map.isFile above = true := by
  obtain ⟨attributes, there, directory⟩ := passable above first
  rw [isFile_of_get? there, directory]
  exact Bool.false_ne_true

theorem inits_eq_cons (names : List Name) : names.inits = [] :: names.inits.tail := by
  cases names <;> rfl

theorem tail_inits_cons (name : Name) (rest : List Name) :
    (name :: rest).inits.tail = [name] :: rest.inits.tail.map (name :: ·) := by
  rw [List.inits_cons, List.tail_cons, inits_eq_cons rest, List.map_cons, List.tail_cons]

theorem tail_inits_concat (above : List Name) (name : Name) :
    (above ++ [name]).inits.tail = above.inits.tail ++ [above ++ [name]] := by
  rw [List.inits_append, inits_eq_cons above]
  rfl

theorem prefix_concat_cons (here : List Name) (name : Name) (rest : List Name) :
    here ++ [name] <+: here ++ name :: rest :=
  ⟨rest, (List.append_cons here name rest).symm⟩

theorem prefix_cases {above rest : List Name} (first : above <+: here ++ name :: rest) :
    above <+: here ∨ here ++ [name] <+: above := by
  rcases List.prefix_or_prefix_of_prefix first (prefix_concat_cons here name rest)
    with shorter | longer
  · rcases List.prefix_concat_iff.mp shorter with rfl | upper
    · exact .inr List.prefix_rfl
    · exact .inl upper
  · exact .inr longer

theorem Passable.not_belowFile_concat (passable : map.Passable here) (name : Name) :
    ¬ map.BelowFile (here ++ [name]) := by
  rw [belowFile_iff]
  rintro ⟨above, first, notWhole, file⟩
  rcases List.prefix_concat_iff.mp first with whole | upper
  · exact notWhole whole
  · exact passable.not_isFile upper file

/-- Below what is missing there is nothing, so no file is in the way either. -/
theorem Passable.not_belowFile_of_missing (passable : map.Passable here) (closed : map.Closed)
    (missing : map.get? (here ++ [name]) = none) (rest : List Name) :
    ¬ map.BelowFile (here ++ name :: rest) := by
  rw [belowFile_iff]
  rintro ⟨above, first, _, file⟩
  rcases prefix_cases first with upper | lower
  · exact passable.not_isFile upper file
  · have there : (map.get? above).isSome := Option.isSome_of_any file
    rw [← Option.not_isSome_iff_eq_none] at missing
    exact missing (closed _ above lower there)

theorem belowFile_of_isFile (file : map.isFile here = true) (name : Name) (rest : List Name) :
    map.BelowFile (here ++ name :: rest) := by
  refine belowFile_iff.mpr ⟨here, List.prefix_append _ _, ?_, file⟩
  intro same
  exact List.cons_ne_nil name rest (List.self_eq_append_right.mp same)

/-! ## Additions, one name at a time -/

/-- Where everything on the way is there, an addition changes one path. -/
theorem Passable.add_concat (passable : map.Passable here) (name : Name)
    (attributes : Attributes) :
    map.add (here ++ [name]) attributes = map.set (here ++ [name]) attributes := by
  have goes : ¬ (here ++ [name] = [] ∨ map.BelowFile (here ++ [name])) :=
    not_or.mpr ⟨List.concat_ne_nil _ _, passable.not_belowFile_concat name⟩
  rw [add, if_neg goes]
  ext1
  funext other
  show (if other = here ++ [name] then some attributes
    else if other <+: here ++ [name] then _ else _) = if _ then _ else _
  split
  · rfl
  · next notWhole =>
    split
    · next first =>
      have upper := (List.prefix_concat_iff.mp first).resolve_left notWhole
      obtain ⟨_, there, _⟩ := passable other upper
      rw [there]
      rfl
    · rfl

theorem isFile_set_directory (missing : map.get? here = none) (names : List Name) :
    (map.set here .directory).isFile names = map.isFile names := by
  show (if names = here then _ else _ : Option Attributes).any _ = _
  split
  · next same =>
    subst same
    rw [isFile, missing]
    rfl
  · rfl

/-- A directory that is missing on the way may be made first. -/
theorem Passable.add_below_missing (passable : map.Passable here) (closed : map.Closed)
    (missing : map.get? (here ++ [name]) = none) {rest : List Name} (more : rest ≠ [])
    (attributes : Attributes) :
    (map.set (here ++ [name]) .directory).add (here ++ name :: rest) attributes =
      map.add (here ++ name :: rest) attributes := by
  have way := passable.not_belowFile_of_missing closed missing rest
  have still : ¬ (map.set (here ++ [name]) .directory).BelowFile (here ++ name :: rest) := by
    simp only [BelowFile, isFile_set_directory missing]
    exact way
  have goes : here ++ name :: rest ≠ [] := List.append_ne_nil_of_right_ne_nil _ nofun
  have shorter : here ++ [name] ≠ here ++ name :: rest := by
    intro same
    have tails := List.append_cancel_left same
    exact more (List.cons.inj tails).2.symm
  have first := prefix_concat_cons here name rest
  rw [add, if_neg (not_or.mpr ⟨goes, still⟩), add, if_neg (not_or.mpr ⟨goes, way⟩)]
  ext1
  funext other
  dsimp only [set]
  by_cases same : other = here ++ [name]
  · subst same
    rw [if_neg shorter, if_neg shorter, if_pos first, if_pos first, if_pos rfl, missing]
    rfl
  · rw [if_neg same]

theorem add_below_isFile (file : map.isFile here = true) (name : Name) (rest : List Name)
    (attributes : Attributes) : map.add (here ++ name :: rest) attributes = map := by
  rw [add, if_pos (.inr (belowFile_of_isFile file name rest))]

theorem Passable.concat (passable : map.Passable here)
    (there : map.get? (here ++ [name]) = some attributes)
    (directory : attributes.isDirectory = true) : map.Passable (here ++ [name]) := by
  intro above first
  rcases List.prefix_concat_iff.mp first with rfl | upper
  · exact ⟨attributes, there, directory⟩
  · exact passable above upper

/-- What is put further down is not on the way. -/
theorem Passable.set (passable : map.Passable here) (name : Name) (attributes : Attributes) :
    (map.set (here ++ [name]) attributes).Passable here := by
  intro above first
  have notBelow : above ≠ here ++ [name] := by
    rintro rfl
    have longer := first.length_le
    simp only [List.length_append, List.length_singleton] at longer
    omega
  obtain ⟨found, there, directory⟩ := passable above first
  exact ⟨found, (if_neg notBelow).trans there, directory⟩

theorem passable_of_directory (closed : map.Closed) (way : ¬ map.BelowFile here)
    (there : map.get? here = some attributes) (directory : attributes.isDirectory = true) :
    map.Passable here := by
  intro above first
  by_cases whole : above = here
  · exact ⟨attributes, whole ▸ there, directory⟩
  · have known := closed above here first (by rw [there]; rfl)
    obtain ⟨found, present⟩ := Option.isSome_iff_exists.mp known
    refine ⟨found, present, ?_⟩
    -- if it were something else, the path would go on below it
    have notFile : ¬ map.isFile above = true := fun file =>
      way (belowFile_iff.mpr ⟨above, first, whole, file⟩)
    rw [isFile_of_get? present, Bool.not_eq_true', Bool.not_eq_false] at notFile
    exact notFile

/-! ## What an addition leaves -/

section

variable {names : List Name} (nonempty : names ≠ []) (way : ¬ map.BelowFile names)

include nonempty way

theorem get?_add_self (attributes : Attributes) :
    (map.add names attributes).get? names = some attributes := by
  rw [add, if_neg (not_or.mpr ⟨nonempty, way⟩)]
  exact if_pos rfl

/-- The way to what was added leads through directories. -/
theorem not_belowFile_add_self (attributes : Attributes) :
    ¬ (map.add names attributes).BelowFile names := by
  rw [belowFile_iff]
  rintro ⟨above, first, notWhole, file⟩
  have stands : (map.add names attributes).get? above =
      (map.get? above).or (some .directory) := by
    rw [add, if_neg (not_or.mpr ⟨nonempty, way⟩)]
    exact (if_neg notWhole).trans (if_pos first)
  rw [isFile, stands] at file
  cases known : map.get? above with
  | none =>
    rw [known] at file
    cases file
  | some found =>
    rw [known] at file
    exact way (belowFile_iff.mpr ⟨above, first, notWhole, by rw [isFile, known]; exact file⟩)

end

/-! ## Lookups, one name at a time -/

theorem lookUp_nil (way : ¬ map.BelowFile here) (there : map.get? here = some attributes) :
    map.lookUp here [] = .ok [] := by
  rw [lookUp, List.append_nil, if_neg way, there, if_neg (Option.some_ne_none attributes)]
  rfl

theorem lookUp_of_isFile (file : map.isFile here = true) (name : Name) (rest : List Name) :
    map.lookUp here (name :: rest) = .error .notADirectory := by
  rw [lookUp, if_pos (belowFile_of_isFile file name rest)]

theorem Passable.lookUp_of_missing (passable : map.Passable here) (closed : map.Closed)
    (missing : map.get? (here ++ [name]) = none) (rest : List Name) :
    map.lookUp here (name :: rest) = .error .notFound := by
  have nothing : map.get? (here ++ name :: rest) = none := by
    rw [← Option.not_isSome_iff_eq_none] at missing ⊢
    intro there
    exact missing (closed _ _ (prefix_concat_cons here name rest) there)
  rw [lookUp, if_neg (passable.not_belowFile_of_missing closed missing rest), if_pos nothing]

/-- From the next name on, the lookups go on. -/
theorem lookUp_cons (there : map.get? (here ++ [name]) = some attributes) (rest : List Name) :
    map.lookUp here (name :: rest) = (map.lookUp (here ++ [name]) rest).map (attributes :: ·) := by
  rw [lookUp, lookUp, ← List.append_cons]
  split
  · rfl
  · split
    · rfl
    · refine congrArg Except.ok ?_
      rw [tail_inits_cons,
        List.filterMap_cons_some (f := fun before => map.get? (here ++ before)) there,
        List.filterMap_map]
      refine congrArg (attributes :: ·) (List.filterMap_congr fun before _ => ?_)
      rw [List.append_assoc]
      rfl

/-! ## Files -/

theorem isOk_resize (map : PathMap) (names : List Name) (size : UInt64) :
    (map.resize names size).1.isOk = map.isFile names := by
  rw [resize, isFile]
  cases map.get? names with
  | none => rfl
  | some attributes =>
    cases directory : attributes.isDirectory <;> simp [directory, Except.isOk, Except.toBool]

/-- What is shown last is what stands at the whole path. -/
theorem getLast?_lookUp {names : List Name} (nonempty : names ≠ [])
    (way : ¬ map.BelowFile names) (stands : map.get? names = some attributes) :
    ∃ shown, map.lookUp [] names = .ok shown ∧ shown.getLast? = some attributes := by
  refine ⟨names.inits.tail.filterMap fun before => map.get? ([] ++ before), ?_, ?_⟩
  · rw [lookUp, List.nil_append, if_neg way, stands, if_neg (Option.some_ne_none attributes)]
  · obtain ⟨above, name, rfl⟩ := (List.eq_nil_or_concat' names).resolve_left nonempty
    have last : List.filterMap (fun before => map.get? ([] ++ before)) [above ++ [name]] =
        [attributes] := by
      rw [List.filterMap_cons_some (f := fun before => map.get? ([] ++ before)) stands]
      rfl
    rw [tail_inits_concat, List.filterMap_append, last, List.getLast?_concat]

theorem endsOnFile_lookUp (root : map.isFile [] = false) (names : List Name) :
    endsOnFile (map.lookUp [] names) = (map.isFile names && !decide (map.BelowFile names)) := by
  by_cases below : map.BelowFile names
  · rw [lookUp, List.nil_append, if_pos below, decide_eq_true below, Bool.not_true, Bool.and_false]
    rfl
  · rw [decide_eq_false below, Bool.not_false, Bool.and_true]
    cases stands : map.get? names with
    | none =>
      rw [lookUp, List.nil_append, if_neg below, stands, if_pos rfl, isFile, stands]
      rfl
    | some attributes =>
      by_cases empty : names = []
      · subst empty
        rw [lookUp_nil below stands, root]
        rfl
      · obtain ⟨shown, found, last⟩ := getLast?_lookUp empty below stands
        rw [found, isFile_of_get? stands, endsOnFile, last]
        rfl

end PathMap

end UserFs
