import UserFs.Error
import UserFs.Log
import UserFs.Request

/-!
# Handlers

A handler is what a filesystem offers to the kernel: six operations on a state. A filesystem
seldom defines them all; it lies as a layer over another handler and passes on to it what it
does not define itself. At the bottom of every stack is a base, which defines everything.
Layers that define nothing make no difference, however many there are (`operations_wrapped`).
-/

namespace UserFs

/-- How a call of a handler ends. -/
inductive Outcome (α : Type) where
  /-- The request is granted, or refused with an error. -/
  | finished (result : Except FsError α)
  /-- The handler gives up with a message and comes to no result. -/
  | panicked (message : String)

/-- What a call of a handler does: how it ends, what it logs, and the state it leaves. -/
structure Effect (σ α : Type) where
  outcome : Outcome α
  log : List LogRecord
  state : σ

/-- The operations of a handler with states in `σ`. -/
structure Operations (σ : Type) where
  /-- The kernel establishes the session. What is settled with it then is part of the state. -/
  init : Context → σ → Effect σ Unit
  /-- The session is over. -/
  destroy : σ → Effect σ Unit
  /-- Finds a child of a directory by name and counts the lookup. -/
  lookup : Context → LookupRequest → σ → Effect σ Entry
  /-- Takes lookups back. -/
  forget : Context → ForgetRequest → σ → Effect σ Unit
  /-- Opens a directory, with a handle of its own. -/
  openDir : Context → OpenDirRequest → σ → Effect σ HandleId
  /-- Closes a handle. -/
  release : Context → ReleaseRequest → σ → Effect σ Unit

/-- The operations that a layer defines itself. -/
structure Overrides (σ : Type) where
  init : Option (Context → σ → Effect σ Unit) := none
  destroy : Option (σ → Effect σ Unit) := none
  lookup : Option (Context → LookupRequest → σ → Effect σ Entry) := none
  forget : Option (Context → ForgetRequest → σ → Effect σ Unit) := none
  openDir : Option (Context → OpenDirRequest → σ → Effect σ HandleId) := none
  release : Option (Context → ReleaseRequest → σ → Effect σ Unit) := none

/-- The operations of a layer over others: its own where it has them, theirs where not. -/
def Overrides.over {σ : Type} (overrides : Overrides σ) (inner : Operations σ) : Operations σ where
  init := overrides.init.getD inner.init
  destroy := overrides.destroy.getD inner.destroy
  lookup := overrides.lookup.getD inner.lookup
  forget := overrides.forget.getD inner.forget
  openDir := overrides.openDir.getD inner.openDir
  release := overrides.release.getD inner.release

/-- A stack of layers over a base. -/
inductive Handler (σ : Type) where
  | base (operations : Operations σ)
  | layer (overrides : Overrides σ) (inner : Handler σ)

namespace Handler

variable {σ : Type}

/-- The operations that a handler offers. -/
def operations : Handler σ → Operations σ
  | .base operations => operations
  | .layer overrides inner => overrides.over inner.operations

/-- The handler below the outermost layer. There is none below a base, and asking for it is a
mistake in the filesystem. -/
def inner : Handler σ → Outcome (Handler σ)
  | .base _ => .panicked "Base Fuse don't have inner type"
  | .layer _ inner => .finished (.ok inner)

/-- A layer that defines nothing. -/
def forwarding (inner : Handler σ) : Handler σ := .layer {} inner

/-- A handler under a number of layers that define nothing. -/
def wrapped : Nat → Handler σ → Handler σ
  | 0, handler => handler
  | depth + 1, handler => forwarding (wrapped depth handler)

theorem operations_forwarding (inner : Handler σ) :
    (forwarding inner).operations = inner.operations := rfl

theorem operations_wrapped (depth : Nat) (handler : Handler σ) :
    (handler.wrapped depth).operations = handler.operations := by
  induction depth with
  | zero => rfl
  | succ depth ih => exact (operations_forwarding _).trans ih

end Handler

end UserFs
