import UserFs.Handle.Table

/-!
# Numbers of handles

Handles are numbered by a counter of 64 bits that goes around. So an open handle is given out a
second time only when every other number has been: `opensUntil` says how far the counter is from
there, an open takes one off (`opensUntil_openWith`), and right after a handle was given out it is
one short of all the numbers (`opensUntil_openWith_self`).
-/

namespace UserFs.Handle.Table

variable {ν : Type} {table : Table ν} {handle : HandleId}

/-- How many opens come before the one that gets this handle. -/
def opensUntil (table : Table ν) (handle : HandleId) : Nat := (handle.raw - table.nextHandle).toNat

theorem opensUntil_openWith_self (table : Table ν) (value : ν) :
    (table.openWith value).2.opensUntil (table.openWith value).1 = UInt64.size - 1 := by
  show (table.nextHandle - (table.nextHandle + 1)).toNat = UInt64.size - 1
  have around : table.nextHandle - (table.nextHandle + 1) = -1 := by grind
  rw [around]
  rfl

/-- While a handle is waited for, an open gets another one, and the wait is shorter by one. -/
theorem opensUntil_openWith (value : ν) (waiting : 0 < table.opensUntil handle) :
    handle ≠ (table.openWith value).1 ∧
      (table.openWith value).2.opensUntil handle + 1 = table.opensUntil handle := by
  unfold opensUntil at waiting
  constructor
  · rintro rfl
    have gone : (table.nextHandle - table.nextHandle).toNat = 0 := by
      rw [UInt64.sub_self]
      rfl
    exact absurd gone (Nat.ne_of_gt waiting)
  · show (handle.raw - (table.nextHandle + 1)).toNat + 1 = (handle.raw - table.nextHandle).toNat
    generalize handle.raw = wanted at waiting
    generalize table.nextHandle = next at waiting
    rw [UInt64.toNat_sub, UInt64.toNat_add, UInt64.toNat_one]
    rw [UInt64.toNat_sub] at waiting ⊢
    have := wanted.toNat_lt
    have := next.toNat_lt
    omega

/-- A release leaves the counter where it is. -/
theorem opensUntil_release (released : HandleId) :
    (table.release released).2.opensUntil handle = table.opensUntil handle := rfl

end UserFs.Handle.Table
