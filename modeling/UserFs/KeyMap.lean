/-!
# Finite maps with distinct keys

A `KeyMap κ ν` is an association list in which no key occurs twice, kept in the order in
which the keys were first written. `get?` is the view that every statement goes through;
each operation has one lemma that says what it does to that view (`get?_insert`,
`get?_modify`, `get?_erase`) and one that says what it does to `size`.
-/

namespace UserFs

/-- A finite map from keys to values. -/
structure KeyMap (κ ν : Type) where
  entries : List (κ × ν)
  nodup_keys : (entries.map Prod.fst).Nodup

namespace KeyMap

variable {κ ν : Type}

/-- The keys, in the order in which they were first written. -/
def keys (map : KeyMap κ ν) : List κ := map.entries.map Prod.fst

/-- How many keys have a value. -/
def size (map : KeyMap κ ν) : Nat := map.entries.length

/-- The map without keys. -/
def empty : KeyMap κ ν := ⟨[], List.nodup_nil⟩

@[simp] theorem size_empty : (empty : KeyMap κ ν).size = 0 := rfl

variable [DecidableEq κ]

/-! ## Operations on the entries -/

/-- The value that stands beside the first occurrence of `key`. -/
def find? (key : κ) : List (κ × ν) → Option ν
  | [] => none
  | (held, value) :: rest => if held = key then some value else find? key rest

/-- Rewrites the values that stand beside `key`. -/
def modifyEntries (key : κ) (change : ν → ν) (entries : List (κ × ν)) : List (κ × ν) :=
  entries.map fun entry => if entry.1 = key then (entry.1, change entry.2) else entry

/-- Drops the entries of `key`. -/
def eraseEntries (key : κ) (entries : List (κ × ν)) : List (κ × ν) :=
  entries.filter fun entry => entry.1 ≠ key

theorem map_fst_modifyEntries (key : κ) (change : ν → ν) (entries : List (κ × ν)) :
    (modifyEntries key change entries).map Prod.fst = entries.map Prod.fst := by
  induction entries with
  | nil => rfl
  | cons entry rest ih =>
    simp only [modifyEntries, List.map_cons] at ih ⊢
    rw [ih]
    split <;> rfl

theorem map_fst_eraseEntries (key : κ) (entries : List (κ × ν)) :
    (eraseEntries key entries).map Prod.fst = (entries.map Prod.fst).filter (· ≠ key) := by
  rw [eraseEntries, List.filter_map]
  rfl

theorem find?_modifyEntries (key : κ) (change : ν → ν) (entries : List (κ × ν)) (other : κ) :
    find? other (modifyEntries key change entries) =
      if other = key then (find? other entries).map change else find? other entries := by
  induction entries with
  | nil => simp [modifyEntries, find?]
  | cons entry rest ih =>
    obtain ⟨held, value⟩ := entry
    simp only [modifyEntries, List.map_cons] at ih ⊢
    by_cases hkey : held = key <;> by_cases hother : held = other <;>
      simp_all [find?]

theorem find?_eraseEntries (key : κ) (entries : List (κ × ν)) (other : κ) :
    find? other (eraseEntries key entries) = if other = key then none else find? other entries := by
  induction entries with
  | nil => simp [eraseEntries, find?]
  | cons entry rest ih =>
    obtain ⟨held, value⟩ := entry
    simp only [eraseEntries] at ih ⊢
    by_cases hkey : held = key <;> by_cases hother : held = other <;>
      simp_all [find?]

theorem find?_append (key : κ) (first second : List (κ × ν)) :
    find? key (first ++ second) = (find? key first).or (find? key second) := by
  induction first with
  | nil => simp [find?]
  | cons entry rest ih =>
    obtain ⟨held, value⟩ := entry
    by_cases hkey : held = key <;> simp [find?, hkey, ih]

theorem mem_map_fst_iff {key : κ} {entries : List (κ × ν)} :
    key ∈ entries.map Prod.fst ↔ (find? key entries).isSome := by
  induction entries with
  | nil => simp [find?]
  | cons entry rest ih =>
    obtain ⟨held, value⟩ := entry
    rw [List.map_cons, List.mem_cons, ih]
    by_cases hkey : held = key
    · simp [find?, hkey]
    · simp [find?, hkey, Ne.symm hkey]

/-! ## Operations on maps -/

/-- The value of a key, if it has one. -/
def get? (map : KeyMap κ ν) (key : κ) : Option ν := find? key map.entries

/-- Whether a key has a value. -/
def contains (map : KeyMap κ ν) (key : κ) : Bool := (map.get? key).isSome

/-- Changes the value of `key`, if it has one. -/
def modify (map : KeyMap κ ν) (key : κ) (change : ν → ν) : KeyMap κ ν where
  entries := modifyEntries key change map.entries
  nodup_keys := by rw [map_fst_modifyEntries]; exact map.nodup_keys

/-- Gives `key` the value `value`: in place if it has one, at the end if not. -/
def insert (map : KeyMap κ ν) (key : κ) (value : ν) : KeyMap κ ν :=
  if fresh : key ∉ map.keys then
    { entries := map.entries ++ [(key, value)]
      nodup_keys := by
        rw [List.map_append, List.nodup_append]
        refine ⟨map.nodup_keys, by simp, ?_⟩
        intro first firstMem second secondMem same
        simp only [List.map_cons, List.map_nil, List.mem_singleton] at secondMem
        exact fresh (secondMem ▸ same ▸ firstMem) }
  else map.modify key fun _ => value

/-- Takes the value away from `key`. -/
def erase (map : KeyMap κ ν) (key : κ) : KeyMap κ ν where
  entries := eraseEntries key map.entries
  nodup_keys := by rw [map_fst_eraseEntries]; exact map.nodup_keys.filter _

/-! ## The view -/

theorem mem_keys_iff {map : KeyMap κ ν} {key : κ} : key ∈ map.keys ↔ (map.get? key).isSome :=
  mem_map_fst_iff

@[simp] theorem get?_empty (key : κ) : (empty : KeyMap κ ν).get? key = none := rfl

theorem get?_modify (map : KeyMap κ ν) (key : κ) (change : ν → ν) (other : κ) :
    (map.modify key change).get? other =
      if other = key then (map.get? other).map change else map.get? other :=
  find?_modifyEntries key change map.entries other

theorem get?_erase (map : KeyMap κ ν) (key other : κ) :
    (map.erase key).get? other = if other = key then none else map.get? other :=
  find?_eraseEntries key map.entries other

theorem get?_insert (map : KeyMap κ ν) (key : κ) (value : ν) (other : κ) :
    (map.insert key value).get? other = if other = key then some value else map.get? other := by
  unfold insert
  split
  · next fresh =>
    have absent : find? key map.entries = none := by
      simpa [mem_keys_iff, get?] using fresh
    simp only [get?, find?_append, find?]
    by_cases hother : other = key
    · simp [hother, absent]
    · simp [hother, Ne.symm hother]
  · next present =>
    rw [get?_modify]
    by_cases hother : other = key
    · subst hother
      obtain ⟨old, hold⟩ :=
        Option.isSome_iff_exists.mp (mem_keys_iff.mp (Decidable.not_not.mp present))
      simp [hold]
    · simp [hother]

/-- Where a key has no value, none is taken away. -/
theorem erase_of_absent {map : KeyMap κ ν} {key : κ} (absent : map.get? key = none) :
    map.erase key = map := by
  have missing : key ∉ map.keys := by
    rw [mem_keys_iff, absent]
    exact Bool.false_ne_true
  have kept : eraseEntries key map.entries = map.entries := by
    refine List.filter_eq_self.mpr fun entry member => decide_eq_true ?_
    rintro rfl
    exact missing (List.mem_map_of_mem member)
  obtain ⟨entries, nodup⟩ := map
  rw [erase, mk.injEq]
  exact kept

/-- Two changes of the value of one key are one change. -/
theorem modify_modify (map : KeyMap κ ν) (key : κ) (first second : ν → ν) :
    (map.modify key first).modify key second = map.modify key (second ∘ first) := by
  have both : modifyEntries key second (modifyEntries key first map.entries) =
      modifyEntries key (second ∘ first) map.entries := by
    simp only [modifyEntries, List.map_map]
    refine List.map_congr_left fun entry _ => ?_
    by_cases same : entry.1 = key <;> simp [same]
  simp only [modify, both]

/-- Which value was taken away makes no difference. -/
theorem erase_modify (map : KeyMap κ ν) (key : κ) (change : ν → ν) :
    (map.modify key change).erase key = map.erase key := by
  have dropped : eraseEntries key (modifyEntries key change map.entries) =
      eraseEntries key map.entries := by
    induction map.entries with
    | nil => rfl
    | cons entry rest ih =>
      simp only [modifyEntries, eraseEntries, List.map_cons, List.filter_cons] at ih ⊢
      by_cases same : entry.1 = key <;> simp_all
  simp only [modify, erase, dropped]

/-! ## Sizes -/

@[simp] theorem size_modify (map : KeyMap κ ν) (key : κ) (change : ν → ν) :
    (map.modify key change).size = map.size := by
  simp [size, modify, modifyEntries]

theorem size_insert (map : KeyMap κ ν) (key : κ) (value : ν) :
    (map.insert key value).size = if (map.get? key).isSome then map.size else map.size + 1 := by
  unfold insert
  split
  · next fresh =>
    rw [mem_keys_iff] at fresh
    simp [size, fresh]
  · next present =>
    rw [Decidable.not_not, mem_keys_iff] at present
    simp [present]

theorem size_erase (map : KeyMap κ ν) (key : κ) :
    (map.erase key).size = if (map.get? key).isSome then map.size - 1 else map.size := by
  have kept : (eraseEntries key map.entries).map Prod.fst = map.keys.erase key := by
    rw [map_fst_eraseEntries, keys, map.nodup_keys.erase_eq_filter]
    exact List.filter_congr fun held _ => by by_cases same : held = key <;> simp [same]
  have counted := congrArg List.length kept
  have total : map.keys.length = map.size := List.length_map _
  rw [List.length_map, List.length_erase, total] at counted
  simp only [mem_keys_iff] at counted
  exact counted

/-- A map in which a key has a value is not empty. -/
theorem size_pos {map : KeyMap κ ν} {key : κ} (present : (map.get? key).isSome) : 0 < map.size := by
  have total : map.keys.length = map.size := List.length_map _
  rw [← total]
  exact List.length_pos_of_mem (mem_keys_iff.mpr present)

end KeyMap

end UserFs
