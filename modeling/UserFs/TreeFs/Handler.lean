import UserFs.Handler.Unsupported
import UserFs.TreeFs.Basic

/-!
# The tree filesystem as a handler

The filesystem is a layer over the handler that supports nothing: it defines the requests
about inodes and directory handles and leaves the start and the end of a session alone. It
logs what became of each request that it did not refuse.
-/

namespace UserFs.TreeFs

/-- How a call ends that came to this result. -/
def outcomeOf {α : Type} (result : Except Refusal α) : Outcome α :=
  .finished (result.mapError Refusal.toError)

theorem ok_of_outcomeOf {α : Type} {result : Except Refusal α} {value : α}
    (told : outcomeOf result = .finished (.ok value)) : result = .ok value := by
  cases result with
  | error refusal => cases told
  | ok found =>
    cases told
    rfl

/-- The record of a lookup that found an entry. -/
def lookupRecord (request : LookupRequest) (entry : Entry) : LogRecord :=
  ⟨.debug, "lookup " ++ request.name.quoted ++ " in " ++ request.parent.text ++ " -> " ++
    entry.child.text ++ " (generation " ++ entry.generation.text ++ ")"⟩

/-- The record of a forget. What a kernel that keeps its books has no reason to ask for is a
warning. -/
def forgetRecord (inode : InodeId) : Inode.ForgetOutcome → LogRecord
  | .retired => ⟨.debug, "forget " ++ inode.text ++ ": retired"⟩
  | .remaining left =>
    ⟨.debug, "forget " ++ inode.text ++ ": " ++ toString left.toNat ++ " lookups left"⟩
  | .pinned => ⟨.debug, "forget " ++ inode.text ++ ": root is never retired"⟩
  | .unknown => ⟨.warn, "forget " ++ inode.text ++ ": inode is not live"⟩
  | .overForgotten issued forgotten =>
    ⟨.warn, "forget " ++ inode.text ++ ": " ++ toString forgotten.toNat ++
      " lookups forgotten but only " ++ toString issued.toNat ++ " issued, retired"⟩

/-- The record of an open that got a handle. -/
def openDirRecord (inode : InodeId) (handle : HandleId) : LogRecord :=
  ⟨.debug, "opendir " ++ inode.text ++ " -> " ++ handle.text⟩

/-- The record of a release. -/
def releaseRecord (handle : HandleId) : Option DirHandle → LogRecord
  | some opened => ⟨.debug, "releasedir " ++ handle.text ++ " of " ++ opened.inode.text⟩
  | none => ⟨.warn, "releasedir " ++ handle.text ++ ": handle is not open"⟩

/-- The operations that the filesystem defines. -/
def overrides : Overrides TreeFs where
  lookup := some fun context request fs =>
    let (result, fs) := fs.lookup context.now request
    ⟨outcomeOf result, (result.toOption.map (lookupRecord request)).toList, fs⟩
  forget := some fun _ request fs =>
    let (outcome, fs) := fs.forget request
    ⟨.finished (.ok ()), [forgetRecord request.inode outcome], fs⟩
  openDir := some fun _ request fs =>
    let (result, fs) := fs.openDir request
    ⟨outcomeOf result, (result.toOption.map (openDirRecord request.inode)).toList, fs⟩
  release := some fun _ request fs =>
    let (released, fs) := fs.release request
    ⟨.finished (.ok ()), [releaseRecord request.handle released], fs⟩

/-- The filesystem over the handler that refuses what it does not define. -/
def handler : Handler TreeFs := .layer overrides (Unsupported.handler false)

end UserFs.TreeFs
