/-!
# Handles

A handle stands for one open of a directory. The kernel repeats it in every call made
through that open until it releases it; two opens of one inode have two handles.
-/

namespace UserFs

/-- The number of an open directory. -/
structure HandleId where
  raw : UInt64
  deriving DecidableEq, Ord, Repr

/-- The handle as it stands in messages. -/
def HandleId.text (handle : HandleId) : String := "HandleId(" ++ toString handle.raw.toNat ++ ")"

end UserFs
