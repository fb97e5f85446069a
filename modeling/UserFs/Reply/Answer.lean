import UserFs.Error
import UserFs.Log

/-!
# What becomes of a handler's result

The kernel waits for the result of some requests and gets either a value or the number of the
error. Others it only announces; their errors are logged and never sent.
-/

namespace UserFs

/-- What is sent for a request that the kernel waits on. -/
inductive Answer (α : Type) where
  | reply (value : α)
  /-- The number of the error is sent, and the error is logged at this level. -/
  | failure (error : FsError) (level : Level)

/-- The level at which an error is logged: names that do not exist are routine. -/
def FsError.level (error : FsError) : Level := if error.kind = .notFound then .debug else .warn

/-- The answer to a request that came to this result. -/
def Answer.ofResult {α : Type} : Except FsError α → Answer α
  | .ok value => .reply value
  | .error error => .failure error error.level

/-- The error to be logged for a request that is acknowledged whatever its result. -/
def acknowledge {α : Type} : Except FsError α → Option FsError
  | .ok _ => none
  | .error error => some error

end UserFs
