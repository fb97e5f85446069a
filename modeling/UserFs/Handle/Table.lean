import UserFs.Handle.Id
import UserFs.KeyMap

/-!
# Open handles

Each open gets the next number of a counter, so a handle that was released is not mistaken
for a later open. With every open handle the table keeps a value for its owner. What an open
and a release do to these values is said by `get?_openWith` and `get?_release`.
-/

namespace UserFs.Handle

/-- The handles that are open, and the number of the next one. -/
structure Table (ν : Type) where
  nextHandle : UInt64
  opened : KeyMap HandleId ν

namespace Table

variable {ν : Type}

/-- The table before the first open; handles are counted from one. -/
def empty : Table ν := ⟨1, .empty⟩

/-- Opens a handle that keeps `value`. -/
def openWith (table : Table ν) (value : ν) : HandleId × Table ν :=
  let handle : HandleId := ⟨table.nextHandle⟩
  (handle, { nextHandle := table.nextHandle + 1, opened := table.opened.insert handle value })

/-- The value that an open handle keeps. -/
def get? (table : Table ν) (handle : HandleId) : Option ν := table.opened.get? handle

/-- Whether a handle is open. -/
def isOpen (table : Table ν) (handle : HandleId) : Bool := table.opened.contains handle

/-- Closes a handle and returns what it kept; nothing if it is not open. -/
def release (table : Table ν) (handle : HandleId) : Option ν × Table ν :=
  (table.opened.get? handle, { table with opened := table.opened.erase handle })

/-- How many handles are open. -/
def openCount (table : Table ν) : Nat := table.opened.size

@[simp] theorem get?_empty (handle : HandleId) : (empty : Table ν).get? handle = none := rfl

theorem isOpen_eq (table : Table ν) (handle : HandleId) :
    table.isOpen handle = (table.get? handle).isSome := rfl

theorem get?_openWith (table : Table ν) (value : ν) (handle : HandleId) :
    (table.openWith value).2.get? handle =
      if handle = (table.openWith value).1 then some value else table.get? handle :=
  KeyMap.get?_insert table.opened _ value handle

theorem release_fst (table : Table ν) (handle : HandleId) :
    (table.release handle).1 = table.get? handle := rfl

theorem get?_release (table : Table ν) (released handle : HandleId) :
    (table.release released).2.get? handle =
      if handle = released then none else table.get? handle :=
  KeyMap.get?_erase table.opened released handle

theorem openCount_openWith (table : Table ν) (value : ν) :
    (table.openWith value).2.openCount =
      if table.isOpen (table.openWith value).1 then table.openCount else table.openCount + 1 :=
  KeyMap.size_insert table.opened _ value

theorem openCount_release (table : Table ν) (handle : HandleId) :
    (table.release handle).2.openCount =
      if table.isOpen handle then table.openCount - 1 else table.openCount :=
  KeyMap.size_erase table.opened handle

theorem openCount_pos {table : Table ν} {handle : HandleId} (isOpen : table.isOpen handle = true) :
    0 < table.openCount :=
  KeyMap.size_pos isOpen

/-- To release a handle that is not open does nothing. -/
theorem release_of_closed {table : Table ν} {handle : HandleId}
    (closed : table.isOpen handle = false) : table.release handle = (none, table) := by
  have absent : table.opened.get? handle = none :=
    Option.isNone_iff_eq_none.mp (Option.isSome_eq_false_iff.mp closed)
  rw [release, absent, KeyMap.erase_of_absent absent]

end Table

end UserFs.Handle
