import UserFs.Proofs.TreeFs.Responses

/-!
# Requests that come to nothing

A request that is refused leaves no trace, however many checks it had passed:

* **the tables** — a lookup for which no inode number is left leaves the inode table as it was
  (`Inode.Table.snd_lookup_of_none`), and so does a forget where nothing is counted
  (`Inode.Table.forget_of_uncounted`);
* **the requests** — `perform_of_nothing`: an action that comes to nothing leaves the filesystem
  as it was, whichever action it is;
* **the runs** — so such actions can be left out of a run, and the others come to the same
  (`responses_withoutNothing`).
-/

namespace UserFs

/-! ## The inode table -/

namespace Inode

variable {κ : Type} [DecidableEq κ]

/-- Where no number is left, a lookup changes nothing. -/
theorem Shard.snd_lookup_of_none (slot : Slot) {shard : Shard κ} {key : κ}
    (exhausted : (shard.lookup slot key).1 = none) : (shard.lookup slot key).2 = shard := by
  unfold lookup at exhausted ⊢
  split
  · next id record live =>
    rw [live] at exhausted
    cases exhausted
  · next dead =>
    rw [dead] at exhausted
    dsimp only at exhausted
    unfold mint at exhausted ⊢
    split
    · next retired waiting queue =>
      rw [queue] at exhausted
      cases exhausted
    · next queue =>
      rw [queue] at exhausted
      dsimp only at exhausted
      split
      · rfl
      · next id number =>
        rw [number] at exhausted
        cases exhausted

namespace Table

variable {table : Table κ}

theorem snd_lookup_of_none {key : κ} (exhausted : (table.lookup key).1 = none) :
    (table.lookup key).2 = table := by
  by_cases isRoot : key = table.rootKey
  · rw [isRoot, lookup_rootKey]
  · rw [lookup_of_ne_rootKey table isRoot] at exhausted ⊢
    dsimp only at exhausted ⊢
    rw [Shard.snd_lookup_of_none _ exhausted, setShard_self]

/-- Lookups of the root and of an ID that is not live are not counted, so none is given back. -/
theorem forget_of_uncounted {id : InodeId} (uncounted : id = .root ∨ table.isValid id = false)
    (count : UInt64) :
    table.forget id count = (if id = .root then .pinned else .unknown, table) := by
  have none_live : ∀ record, table.record? id ≠ some record := by
    intro record live
    rcases uncounted with isRoot | invalid
    · exact ne_root_of_record? live isRoot
    · rw [isValid_of_record? live] at invalid
      cases invalid
  have step := table.step_forget id count
  rw [call_forget] at step
  generalize table.forget id count = result at step ⊢
  obtain ⟨outcome, after⟩ := result
  dsimp only at step
  cases step with
  | pinned => rfl
  | unknown notRoot => rw [if_neg notRoot]
  | remaining live => exact absurd live (none_live _)
  | retired live => exact absurd live (none_live _)

/-- A forget that is told to have changed nothing has changed nothing. -/
theorem snd_forget_of_nothing {id : InodeId} {count : UInt64}
    (nothing : (table.forget id count).1 = .pinned ∨ (table.forget id count).1 = .unknown) :
    (table.forget id count).2 = table := by
  have step := table.step_forget id count
  rw [call_forget] at step
  generalize table.forget id count = result at step nothing ⊢
  obtain ⟨outcome, after⟩ := result
  dsimp only at step nothing ⊢
  cases step with
  | pinned => rfl
  | unknown => rfl
  | remaining => simp at nothing
  | retired =>
    split at nothing
    · simp at nothing
    · simp at nothing

end Table

end Inode

namespace TreeFs

variable {fs : TreeFs}

/-! ## Requests -/

theorem snd_lookup_of_error {now : Instant} {request : LookupRequest} {refusal : Refusal}
    (refused : (fs.lookup now request).1 = .error refusal) : (fs.lookup now request).2 = fs := by
  cases resolved : fs.resolveName request with
  | error cause => rw [lookup_of_error resolved]
  | ok pair =>
    rw [lookup_of_ok resolved] at refused ⊢
    dsimp only at refused ⊢
    -- the node was found, so the numbers are used up
    cases found : (fs.inodes.lookup pair.1).1 with
    | none => rw [Inode.Table.snd_lookup_of_none found]
    | some incarnation =>
      rw [found] at refused
      cases refused

theorem snd_openDir_of_error {request : OpenDirRequest} {refusal : Refusal}
    (refused : (fs.openDir request).1 = .error refusal) : (fs.openDir request).2 = fs := by
  cases checked : fs.checkOpenDir request with
  | error cause => rw [openDir_of_error checked]
  | ok =>
    rw [openDir_of_ok checked] at refused
    cases refused

theorem snd_resize_of_error {path : String} {size : UInt64} {refusal : Refusal}
    (refused : (fs.resize path size).1 = .error refusal) : (fs.resize path size).2 = fs := by
  rcases fs.resize_cases path size with ⟨cause, same⟩ | ⟨key, _, resized⟩
  · rw [same]
  · rw [resized] at refused
    cases refused

theorem forget_of_uncounted {request : ForgetRequest}
    (uncounted : request.inode = .root ∨ fs.isValid request.inode = false) :
    fs.forget request = (if request.inode = .root then .pinned else .unknown, fs) := by
  rw [forget, Inode.Table.forget_of_uncounted uncounted]

theorem release_of_closed {request : ReleaseRequest} (closed : fs.isOpen request.handle = false) :
    fs.release request = (none, fs) := by
  rw [release, Handle.Table.release_of_closed closed]

/-! ## Actions -/

/-- Whether an action came to nothing: it was refused, or there was nothing to give back. -/
def Response.isNothing : Response → Bool
  | .looked result => !result.isOk
  | .forgot outcome => outcome = .pinned || outcome = .unknown
  | .opened result => !result.isOk
  | .released opened? => opened?.isNone
  | .resized result => !result.isOk

theorem exists_refusal {α : Type} {result : Except Refusal α} (refused : (!result.isOk) = true) :
    ∃ refusal, result = .error refusal := by
  cases result with
  | ok value => cases refused
  | error refusal => exact ⟨refusal, rfl⟩

/-- An action that came to nothing has changed nothing. -/
theorem perform_of_nothing {action : Action}
    (nothing : (fs.perform action).1.isNothing = true) : (fs.perform action).2 = fs := by
  cases action with
  | resize path size =>
    have failed : (!(fs.resize path size).1.isOk) = true := nothing
    obtain ⟨refusal, refused⟩ := exists_refusal failed
    exact snd_resize_of_error refused
  | query route context query =>
    cases query with
    | lookup request =>
      have failed : (!(fs.lookup context.now (route.received request)).1.isOk) = true := nothing
      obtain ⟨refusal, refused⟩ := exists_refusal failed
      exact snd_lookup_of_error refused
    | forget request =>
      have told : ((fs.forget request).1 = .pinned || (fs.forget request).1 = .unknown) = true :=
        nothing
      rw [Bool.or_eq_true, decide_eq_true_eq, decide_eq_true_eq] at told
      show { fs with inodes := (fs.inodes.forget request.inode request.count).2 } = fs
      rw [Inode.Table.snd_forget_of_nothing told]
    | openDir request =>
      have failed : (!(fs.openDir request).1.isOk) = true := nothing
      obtain ⟨refusal, refused⟩ := exists_refusal failed
      exact snd_openDir_of_error refused
    | releaseDir inode request =>
      have closed : fs.isOpen request.handle = false := by
        show (fs.handles.get? request.handle).isSome = false
        rw [Option.isSome_eq_false_iff]
        exact nothing
      exact congrArg Prod.snd (release_of_closed closed)

/-! ## Runs -/

/-- The actions that come to something. -/
def withoutNothing (fs : TreeFs) (actions : List Action) : List Action :=
  ((fs.responses actions).filter fun exchange => !exchange.2.isNothing).map Prod.fst

/-- What comes to nothing can be left out: the other actions come to the same. -/
theorem responses_withoutNothing (fs : TreeFs) (actions : List Action) :
    fs.responses (fs.withoutNothing actions) =
        (fs.responses actions).filter (fun exchange => !exchange.2.isNothing) ∧
      Inode.performAll perform fs (fs.withoutNothing actions) =
        Inode.performAll perform fs actions := by
  have stays : ∀ (state other : TreeFs) action, state = other →
      (state.perform action).1.isNothing = true → (state.perform action).2 = other := by
    rintro state _ action rfl nothing
    exact perform_of_nothing nothing
  have follows : ∀ (state other : TreeFs) action, state = other →
      (state.perform action).1.isNothing = false →
      (other.perform action).1 = (state.perform action).1 ∧
        (state.perform action).2 = (other.perform action).2 := by
    rintro state _ action rfl _
    exact ⟨rfl, rfl⟩
  obtain ⟨same, ends⟩ := Inode.transcript_without perform (fun exchange => exchange.2.isNothing)
    Eq stays follows rfl actions
  exact ⟨same, ends.symm⟩

/-! ## No trace -/

theorem exists_refusal_of_outcomeOf {α : Type} {result : Except Refusal α} {error : FsError}
    (told : outcomeOf result = .finished (.error error)) : ∃ refusal, result = .error refusal := by
  cases result with
  | ok value => cases told
  | error refusal => exact ⟨refusal, rfl⟩

theorem outcome_lookup_of_error {context : Context} {request : LookupRequest} {refusal : Refusal}
    (refused : fs.resolveName request = .error refusal) :
    (handler.operations.lookup context request fs).outcome =
      .finished (.error refusal.toError) := by
  show outcomeOf (fs.lookup context.now request).1 = _
  rw [lookup_of_error refused]
  rfl

/-- **A refused request leaves no trace.** Whatever the filesystem has come to, a lookup, an open
or a change of size that ends with an error, of any kind, leaves all of it as it was: the tree, the
inode table and the handles. So do a forget of the root or of an ID that is not live and a release
of a handle that is not open, although they are granted. Therefore all these can be left out of a
run: the other actions come to the same, and so does the run. -/
theorem refused_leaves_no_trace (fs : TreeFs) (context : Context) :
    (∀ request error,
      (handler.operations.lookup context request fs).outcome = .finished (.error error) →
      (handler.operations.lookup context request fs).state = fs) ∧
    (∀ request error,
      (handler.operations.openDir context request fs).outcome = .finished (.error error) →
      (handler.operations.openDir context request fs).state = fs) ∧
    (∀ path size refusal, (fs.resize path size).1 = .error refusal →
      (fs.resize path size).2 = fs) ∧
    (∀ request : ForgetRequest, request.inode = .root ∨ fs.isValid request.inode = false →
      handler.operations.forget context request fs = ⟨.finished (.ok ()),
        [forgetRecord request.inode (if request.inode = .root then .pinned else .unknown)], fs⟩) ∧
    (∀ request : ReleaseRequest, fs.isOpen request.handle = false →
      handler.operations.release context request fs = ⟨.finished (.ok ()),
        [releaseRecord request.handle none], fs⟩) ∧
    ∀ actions, fs.responses (fs.withoutNothing actions) =
        (fs.responses actions).filter (fun exchange => !exchange.2.isNothing) ∧
      Inode.performAll perform fs (fs.withoutNothing actions) =
        Inode.performAll perform fs actions := by
  refine ⟨?_, ?_, fun path size refusal => snd_resize_of_error, ?_, ?_,
    fs.responses_withoutNothing⟩
  · intro request error told
    obtain ⟨refusal, refused⟩ := exists_refusal_of_outcomeOf told
    exact snd_lookup_of_error refused
  · intro request error told
    obtain ⟨refusal, refused⟩ := exists_refusal_of_outcomeOf told
    exact snd_openDir_of_error refused
  · intro request uncounted
    show Effect.mk _ [forgetRecord request.inode (fs.forget request).1] (fs.forget request).2 = _
    rw [forget_of_uncounted uncounted]
  · intro request closed
    show Effect.mk _ [releaseRecord request.handle (fs.release request).1]
      (fs.release request).2 = _
    rw [release_of_closed closed]

/-- After the visit `a` has no child `c`, the ID of `b` is not live any more, and only one
directory was opened. -/
theorem refused_leaves_no_trace_visit :
    let context : Context := ⟨⟨1, 0, 0, 0⟩, .epoch⟩
    let fs := inUse [.file "a/b" 5] .disabled ⟨1, true⟩ (fun _ => 0) context .epoch visit
    (handler.operations.lookup context ⟨⟨2⟩, .ofString "c"⟩ fs).outcome =
        .finished (.error (Refusal.noSuchName (.ofString "c")).toError) ∧
      (handler.operations.lookup context ⟨⟨2⟩, .ofString "c"⟩ fs).state = fs ∧
      fs.isValid ⟨3⟩ = false ∧
      handler.operations.forget context ⟨⟨3⟩, 1⟩ fs =
        ⟨.finished (.ok ()), [forgetRecord ⟨3⟩ .unknown], fs⟩ ∧
      fs.isOpen ⟨2⟩ = false ∧
      handler.operations.release context ⟨⟨2⟩⟩ fs =
        ⟨.finished (.ok ()), [releaseRecord ⟨2⟩ none], fs⟩ := by
  intro context fs
  obtain ⟨lookup, _, _, forget, release, _⟩ := refused_leaves_no_trace fs context
  have told : (handler.operations.lookup context ⟨⟨2⟩, .ofString "c"⟩ fs).outcome =
      .finished (.error (Refusal.noSuchName (.ofString "c")).toError) :=
    outcome_lookup_of_error (by decide)
  have invalid : fs.isValid ⟨3⟩ = false := by decide
  have closed : fs.isOpen ⟨2⟩ = false := by decide
  exact ⟨told, lookup _ _ told, invalid, forget ⟨⟨3⟩, 1⟩ (.inr invalid), closed,
    release ⟨⟨2⟩⟩ closed⟩

end TreeFs

end UserFs
