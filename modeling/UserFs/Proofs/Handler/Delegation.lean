import UserFs.Proofs.Inode.Operation
import UserFs.TreeFs.Handler

/-!
# Layers that are not there

A layer passes on what it does not define, so it cannot be told from the handler below it by calls
of operations that it does not define (`perform_over_of_passes`). By induction on the layers this
holds of a stack of them (`perform_under_of_pass`), and by induction on the calls of a run, in which
every call finds the state that the calls before it have left (`run_under_of_pass`). A stack of
layers that define nothing is the case in which it holds of all runs.
-/

namespace UserFs

variable {σ α : Type}

/-! ## Calls -/

namespace Handler

/-- A call of a handler, with its arguments. -/
inductive Call where
  | init (context : Context)
  | destroy
  | lookup (context : Context) (request : LookupRequest)
  | forget (context : Context) (request : ForgetRequest)
  | openDir (context : Context) (request : OpenDirRequest)
  | release (context : Context) (request : ReleaseRequest)

/-- How a call ends, whichever operation it is of. -/
inductive Ending where
  | done (outcome : Outcome Unit)
  | entry (outcome : Outcome Entry)
  | handle (outcome : Outcome HandleId)

/-- What is seen of a call: how it ends, and what it logs. -/
structure Seen where
  ending : Ending
  log : List LogRecord

end Handler

open Handler

/-- What is seen of a call with this effect, and the state that it leaves. -/
def Effect.seen (effect : Effect σ α) (ending : Outcome α → Ending) : Seen × σ :=
  (⟨ending effect.outcome, effect.log⟩, effect.state)

/-- Performs a call. -/
def Operations.perform (operations : Operations σ) (state : σ) : Call → Seen × σ
  | .init context => (operations.init context state).seen .done
  | .destroy => (operations.destroy state).seen .done
  | .lookup context request => (operations.lookup context request state).seen .entry
  | .forget context request => (operations.forget context request state).seen .done
  | .openDir context request => (operations.openDir context request state).seen .handle
  | .release context request => (operations.release context request state).seen .done

/-- Whether a layer passes a call on, since it does not define the operation. -/
def Overrides.Passes (overrides : Overrides σ) : Call → Prop
  | .init _ => overrides.init = none
  | .destroy => overrides.destroy = none
  | .lookup _ _ => overrides.lookup = none
  | .forget _ _ => overrides.forget = none
  | .openDir _ _ => overrides.openDir = none
  | .release _ _ => overrides.release = none

/-- A layer that defines nothing passes every call on. -/
theorem Overrides.passes_empty (call : Call) : ({} : Overrides σ).Passes call := by
  cases call <;> rfl

/-! ## One layer -/

/-- A call that a layer passes on is seen, and does, what it is and does without the layer. -/
theorem Overrides.perform_over_of_passes {overrides : Overrides σ} {call : Call}
    (passes : overrides.Passes call) (inner : Operations σ) (state : σ) :
    (overrides.over inner).perform state call = inner.perform state call := by
  cases call with
  | init | destroy | lookup | forget | openDir | release =>
    rw [Passes] at passes
    simp only [Operations.perform, Overrides.over, passes, Option.getD_none]

/-! ## A stack of layers -/

namespace Handler

/-- A handler under layers, the outermost first. -/
def under (layers : List (Overrides σ)) (handler : Handler σ) : Handler σ :=
  layers.foldr .layer handler

/-- The layers that define nothing are a stack of their own. -/
theorem wrapped_eq_under (depth : Nat) (handler : Handler σ) :
    handler.wrapped depth = handler.under (List.replicate depth {}) := by
  induction depth with
  | zero => rfl
  | succ depth ih => exact congrArg forwarding ih

theorem perform_under_of_pass {layers : List (Overrides σ)} {call : Call}
    (pass : ∀ overrides ∈ layers, overrides.Passes call) (handler : Handler σ) (state : σ) :
    (handler.under layers).operations.perform state call =
      handler.operations.perform state call := by
  induction layers with
  | nil => rfl
  | cons overrides rest ih =>
    obtain ⟨passes, below⟩ := List.forall_mem_cons.mp pass
    calc ((handler.under (overrides :: rest)).operations).perform state call
      _ = (handler.under rest).operations.perform state call :=
        Overrides.perform_over_of_passes passes _ state
      _ = handler.operations.perform state call := ih below

/-- A run of calls that all layers pass on is seen, and ends, as it is and does without them. -/
theorem run_under_of_pass {layers : List (Overrides σ)} {calls : List Call}
    (pass : ∀ call ∈ calls, ∀ overrides ∈ layers, overrides.Passes call) (handler : Handler σ)
    (state : σ) :
    Inode.transcript (handler.under layers).operations.perform state calls =
        Inode.transcript handler.operations.perform state calls ∧
      Inode.performAll (handler.under layers).operations.perform state calls =
        Inode.performAll handler.operations.perform state calls := by
  induction calls generalizing state with
  | nil => exact ⟨rfl, rfl⟩
  | cons call rest ih =>
    obtain ⟨passed, later⟩ := List.forall_mem_cons.mp pass
    have same := perform_under_of_pass passed handler state
    obtain ⟨shown, left⟩ := ih later (handler.operations.perform state call).2
    rw [Inode.transcript, Inode.performAll, same, shown, left]
    exact ⟨rfl, rfl⟩

/-- **Delegation is transparent.** However many layers that define nothing lie over a handler, every
run of calls is seen as it is without them — how each call ends, panics included, and what it logs —
and it leaves the state that it leaves without them. So the tree filesystem, which defines neither
the start nor the end of a session, grants the one, and keeps everything at the other. -/
theorem delegation_transparent (handler : Handler σ) (depth : Nat) (state : σ)
    (calls : List Call) :
    Inode.transcript (handler.wrapped depth).operations.perform state calls =
      Inode.transcript handler.operations.perform state calls ∧
    Inode.performAll (handler.wrapped depth).operations.perform state calls =
      Inode.performAll handler.operations.perform state calls ∧
    ∀ fs : TreeFs, ∀ context : Context,
      let treeOperations := (TreeFs.handler.wrapped depth).operations
      treeOperations.init context fs = ⟨.finished (.ok ()), [], fs⟩ ∧
        treeOperations.destroy fs = ⟨.finished (.ok ()), [], fs⟩ := by
  have pass : ∀ call ∈ calls, ∀ overrides ∈ List.replicate depth ({} : Overrides σ),
      overrides.Passes call := by
    intro call _ overrides layer
    rw [List.eq_of_mem_replicate layer]
    exact Overrides.passes_empty call
  rw [wrapped_eq_under]
  obtain ⟨shown, left⟩ := run_under_of_pass pass handler state
  refine ⟨shown, left, fun fs context => ?_⟩
  dsimp only
  rw [operations_wrapped]
  exact ⟨rfl, rfl⟩

end Handler

end UserFs
