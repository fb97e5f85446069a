import UserFs.Handler.Basic

/-!
# Recording what a handler is asked

A recorder stands before a handler and writes down every call. It passes the call on, unless
an answer was laid out for it: then it gives that answer and the handler does not see the
call.
-/

namespace UserFs.Recorder

/-- A call that a handler got. -/
inductive Call where
  | init
  | lookup (request : LookupRequest)
  | forget (request : ForgetRequest)
  | openDir (request : OpenDirRequest)
  | release (request : ReleaseRequest)
  deriving DecidableEq, Repr

/-- An answer laid out for the next call. -/
inductive Prepared where
  | refusal (error : FsError)
  | entry (entry : Entry)
  | handle (handle : HandleId)
  | done

/-- The state of the handler behind the recorder, and what the recorder keeps. -/
structure State (σ : Type) where
  inner : σ
  /-- The calls so far, and who made them; the end of the session is only counted. -/
  calls : List (Call × RequestInfo)
  /-- How often the session was ended. -/
  destroyed : Nat
  /-- The answer that calls get, if there is one. -/
  prepared : Option Prepared

namespace State

variable {σ : Type}

/-- A recorder that has seen nothing. -/
def fresh (inner : σ) : State σ := ⟨inner, [], 0, none⟩

/-- Lays out an answer, or none, and forgets the calls so far. -/
def prepare (state : State σ) (prepared : Option Prepared) : State σ :=
  { state with calls := [], prepared := prepared }

/-- Writes a call down. -/
def note (state : State σ) (context : Context) (call : Call) : State σ :=
  { state with calls := state.calls ++ [(call, context.info)] }

end State

/-- What a laid-out answer says to a call whose success `read?` recognises. -/
def Prepared.result? {α : Type} (read? : Prepared → Option α) :
    Prepared → Option (Except FsError α)
  | .refusal error => some (.error error)
  | prepared => (read? prepared).map .ok

/-- The entry of an answer to a lookup. -/
def Prepared.entry? : Prepared → Option Entry
  | .entry found => some found
  | _ => none

/-- The handle of an answer to an open. -/
def Prepared.handle? : Prepared → Option HandleId
  | .handle opened => some opened
  | _ => none

/-- Any answer to a call that returns nothing. -/
def Prepared.done? : Prepared → Option Unit := fun _ => some ()

variable {σ α : Type}

/-- Writes a call down and answers it as laid out, or passes it on. -/
def record (read? : Prepared → Option α) (call : Call) (pass : Context → σ → Effect σ α)
    (context : Context) (state : State σ) : Effect (State σ) α :=
  let noted := state.note context call
  match state.prepared.bind (Prepared.result? read?) with
  | some result => ⟨.finished result, [], noted⟩
  | none =>
    let effect := pass context state.inner
    ⟨effect.outcome, effect.log, { noted with inner := effect.state }⟩

/-- The operations of a recorder before others. -/
def operations (inner : Operations σ) : Operations (State σ) where
  init := record Prepared.done? .init inner.init
  destroy state :=
    let effect := inner.destroy state.inner
    ⟨effect.outcome, effect.log,
      { state with inner := effect.state, destroyed := state.destroyed + 1 }⟩
  lookup context request := record Prepared.entry? (.lookup request)
    (fun context => inner.lookup context request) context
  forget context request := record Prepared.done? (.forget request)
    (fun context => inner.forget context request) context
  openDir context request := record Prepared.handle? (.openDir request)
    (fun context => inner.openDir context request) context
  release context request := record Prepared.done? (.release request)
    (fun context => inner.release context request) context

end UserFs.Recorder
