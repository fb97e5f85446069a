import UserFs.Handler.Basic

/-!
# The handler that supports nothing

The usual base of a stack: a session starts and ends with it, and every request is refused as
unsupported. While a filesystem is being written it can be told to panic instead, which shows
what the kernel asks for.
-/

namespace UserFs.Unsupported

/-- What becomes of a request for an operation that is not there. -/
def answer {α : Type} (panics : Bool) (operation : String) : Outcome α :=
  if panics then .panicked ("Function not implemented: " ++ operation)
  else .finished (.error (ErrorKind.unsupported.toError operation))

/-- Logs a request, leaves the state alone, and refuses or panics. -/
def decline {σ α : Type} (panics : Bool) (operation : String) (level : Level)
    (arguments : String) (state : σ) : Effect σ α where
  outcome := answer panics operation
  log := [⟨level, "[Not Implemented] " ++ operation ++ "(" ++ arguments ++ ")"⟩]
  state := state

/-- The operations that are not there; `panics` chooses how that is told. -/
def operations {σ : Type} (panics : Bool) : Operations σ where
  init _ state := ⟨.finished (.ok ()), [], state⟩
  destroy state := ⟨.finished (.ok ()), [], state⟩
  lookup _ request := decline panics "lookup" .warn
    ("parent: " ++ request.parent.text ++ ", name " ++ request.name.quoted)
  forget _ request := decline panics "forget" .debug
    ("id: " ++ request.inode.text ++ ", nlookup: " ++ toString request.count.toNat)
  openDir _ request := decline panics "opendir" .warn
    ("inode: " ++ request.inode.text ++ ", flags: " ++ request.flags.text)
  release _ request := decline panics "releasedir" .debug ("handle: " ++ request.handle.text)

/-- The base that refuses, or panics at, every request. -/
def handler {σ : Type} (panics : Bool) : Handler σ := .base (operations panics)

end UserFs.Unsupported
