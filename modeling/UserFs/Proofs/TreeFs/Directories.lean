import UserFs.Proofs.Handle.Lifecycle
import UserFs.Proofs.TreeFs.DotEntries
import UserFs.Proofs.TreeFs.Handles

/-!
# What may be opened

An open of an ID and a lookup of `.` in it ask the same of it, each by checks of its own, and one
after the other:

* **flags** — those that do not ask for writing have read-only as their access mode and none of
  three bits (`OpenFlags.requestsWrite_eq_false_iff`);
* **checks** — an ID is no directory because it is not live or because its node is something else
  (`Obstacle`). A lookup of `.` meets that obstacle and no other (`Obstacle.kind?_lookup`), and so
  does an open, which asks for its flags only then (`Obstacle.kind?_openDir`);
* **handles** — the handle table sees a run of its own, of the opens that are granted and the
  releases (`transcript_handles`), so the laws of handles hold of the filesystem in use
  (`kept_inUse`): an open is granted with a new one.
-/

namespace UserFs

/-! ## Flags -/

namespace OpenFlags

variable {flags : OpenFlags}

/-- Whether the flags ask for nothing but reading. -/
structure OnlyReads (flags : OpenFlags) : Prop where
  mode : flags.intersection accessMode = readOnly
  noTruncate : flags.contains truncate = false
  noCreate : flags.contains create = false
  noAppend : flags.contains appendMode = false

theorem intersects_union (flags first second : OpenFlags) :
    flags.intersects (first.union second) =
      (flags.intersects first || flags.intersects second) := by
  unfold intersects union
  rw [BitVec.and_or_distrib_left, ← Bool.decide_or, decide_eq_decide]
  show ¬ _ = 0#32 ↔ ¬ _ = 0#32 ∨ ¬ _ = 0#32
  rw [BitVec.or_eq_zero_iff, not_and_or]

/-- Of a flag that is one bit, all is set or nothing. -/
theorem intersects_eq_contains (flags : OpenFlags) {flag : OpenFlags} {index : Nat}
    (inside : index < 32) (single : flag.bits = BitVec.twoPow 32 index) :
    flags.intersects flag = flags.contains flag := by
  have nonzero : BitVec.twoPow 32 index ≠ 0#32 := by
    intro zero
    have bit := congrArg (fun bits => bits.getLsbD index) zero
    simp [inside] at bit
  unfold intersects contains
  rw [single, BitVec.and_twoPow]
  cases flags.bits.getLsbD index with
  | false => simp [nonzero.symm]
  | true => simp [nonzero]

theorem isReadOnly_iff : flags.isReadOnly = true ↔ flags.intersection accessMode = readOnly := by
  rw [isReadOnly, decide_eq_true_eq, intersection, readOnly, mk.injEq]

theorem requestsWrite_eq_false_iff : flags.requestsWrite = false ↔ flags.OnlyReads := by
  have truncates : flags.intersects truncate = flags.contains truncate :=
    flags.intersects_eq_contains (show 9 < 32 by decide) rfl
  have creates : flags.intersects create = flags.contains create :=
    flags.intersects_eq_contains (show 6 < 32 by decide) rfl
  have appends : flags.intersects appendMode = flags.contains appendMode :=
    flags.intersects_eq_contains (show 10 < 32 by decide) rfl
  unfold requestsWrite
  rw [intersects_union, intersects_union, truncates, creates, appends]
  simp only [Bool.or_eq_false_iff, Bool.not_eq_false', isReadOnly_iff]
  constructor
  · rintro ⟨mode, ⟨noTruncate, noCreate⟩, noAppend⟩
    exact ⟨mode, noTruncate, noCreate, noAppend⟩
  · rintro ⟨mode, noTruncate, noCreate, noAppend⟩
    exact ⟨mode, ⟨noTruncate, noCreate⟩, noAppend⟩

end OpenFlags

/-! ## How requests end -/

/-- Whether a request was granted. -/
def Outcome.isGranted {α : Type} : Outcome α → Bool
  | .finished (.ok _) => true
  | .finished (.error _) | .panicked _ => false

/-- The kind of the error that a request ended with. -/
def Outcome.kind? {α : Type} : Outcome α → Option ErrorKind
  | .finished (.error error) => some error.kind
  | .finished (.ok _) | .panicked _ => none

namespace TreeFs

variable {fs : TreeFs} {id : InodeId} {key : NodeKey} {node : Node} {kind? : Option ErrorKind}

/-- A request to the filesystem is granted or ends with an error. -/
theorem isGranted_outcomeOf {α : Type} (result : Except Refusal α) :
    (outcomeOf result).isGranted = (outcomeOf result).kind?.isNone := by
  cases result <;> rfl

/-! ## Checks -/

/-- What keeps an ID from being that of a directory: the kind of error that it is told as, or
nothing. -/
inductive Obstacle (fs : TreeFs) (id : InodeId) : Option ErrorKind → Prop
  | notLive (dead : fs.isValid id = false) : Obstacle fs id (some .notFound)
  | file {key : NodeKey} {node : Node} (has : fs.HasNode id key node)
      (file : node.attributes.isDirectory = false) : Obstacle fs id (some .notADirectory)
  | nothing {key : NodeKey} {node : Node} (has : fs.HasNode id key node)
      (directory : node.attributes.isDirectory = true) : Obstacle fs id none

theorem Wf.exists_obstacle (wf : fs.Wf) (id : InodeId) : ∃ kind?, fs.Obstacle id kind? := by
  cases valid : fs.isValid id with
  | false => exact ⟨_, .notLive valid⟩
  | true =>
    obtain ⟨key, node, has⟩ := wf.exists_hasNode valid
    cases directory : node.attributes.isDirectory with
    | false => exact ⟨_, .file has directory⟩
    | true => exact ⟨_, .nothing has directory⟩

namespace Obstacle

/-- A lookup of the directory itself meets the obstacle, and no other. -/
theorem kind?_lookup (obstacle : fs.Obstacle id kind?) (wf : fs.Wf) (asked : Context) :
    (handler.operations.lookup asked ⟨id, .dot⟩ fs).outcome.kind? = kind? := by
  cases obstacle with
  | notLive dead =>
    rw [outcome_lookup_of_error (resolveName_of_dead dead)]
    rfl
  | file has file =>
    rw [outcome_lookup_of_error (has.resolveName_of_file file)]
    rfl
  | nothing has directory =>
    obtain ⟨generation, current⟩ := Option.isSome_iff_exists.mp has.isValid
    have found : fs.Finds asked ⟨id, .dot⟩ _ := wf.finds has directory .itself has current asked
    rw [found.answered]
    rfl

/-- So does an open, which is about its flags where there is none. -/
theorem kind?_openDir (obstacle : fs.Obstacle id kind?) (asked : Context) (flags : OpenFlags) :
    (handler.operations.openDir asked ⟨id, flags⟩ fs).outcome.kind? =
      kind?.or (if flags.requestsWrite then some .permissionDenied else none) := by
  show (outcomeOf (fs.openDir ⟨id, flags⟩).1).kind? = _
  cases obstacle with
  | notLive dead =>
    rw [openDir_of_error (checkOpenDir_of_dead dead)]
    rfl
  | file has file =>
    have refused : fs.checkOpenDir ⟨id, flags⟩ = _ := HasNode.checkOpenDir_eq has
    rw [file] at refused
    rw [openDir_of_error refused]
    rfl
  | nothing has directory =>
    have checked : fs.checkOpenDir ⟨id, flags⟩ = _ := HasNode.checkOpenDir_eq has
    rw [directory] at checked
    cases writes : flags.requestsWrite with
    | true =>
      simp only [writes, if_true] at checked
      rw [openDir_of_error checked]
      rfl
    | false =>
      simp only [writes, if_true] at checked
      rw [openDir_of_ok checked]
      rfl

theorem ne_permissionDenied (obstacle : fs.Obstacle id kind?) :
    kind? ≠ some .permissionDenied := by
  cases obstacle <;> nofun

end Obstacle

/-! ## Handles -/

/-- The handle that an action was answered with. -/
def Response.handle? : Response → Option HandleId
  | .opened (.ok handle) => some handle
  | _ => none

/-- The call of the handle table that an action comes down to, with its answer. -/
def onHandles? : Action × Response → Option (Handle.Call DirHandle × Handle.Answer DirHandle)
  | (.query _ _ (.openDir request), .opened (.ok handle)) =>
    some (.openWith ⟨request.inode, request.flags⟩, .opened handle)
  | (.query _ _ (.releaseDir _ request), .released opened?) =>
    some (.release request.handle, .released opened?)
  | _ => none

/-- What the handle table sees of a run. -/
def onHandles (exchanges : List (Action × Response)) :
    List (Handle.Call DirHandle × Handle.Answer DirHandle) :=
  exchanges.filterMap onHandles?

/-- An action makes one call of the handle table, or leaves it alone. -/
theorem handles_perform (fs : TreeFs) (action : Action) :
    match onHandles? (action, (fs.perform action).1) with
    | none => (fs.perform action).2.handles = fs.handles
    | some (call, answer) =>
      fs.handles.perform call = (answer, (fs.perform action).2.handles) := by
  cases action with
  | resize path size => exact handles_resize fs path size
  | query route context query =>
    cases query with
    | lookup request => exact handles_lookup fs context.now (route.received request)
    | forget request => rfl
    | openDir request =>
      cases checked : fs.checkOpenDir request with
      | error refusal =>
        have refused : fs.perform (.query route context (.openDir request)) =
            (.opened (.error refusal), fs) := by
          simp only [perform, openDir_of_error checked]
        rw [refused]
        rfl
      | ok =>
        have granted := openDir_of_ok checked
        simp only [perform, granted]
        rfl
    | releaseDir inode request => rfl

/-- The handle table goes through a run of its own. -/
theorem transcript_handles (fs : TreeFs) (actions : List Action) :
    Inode.transcript Handle.Table.perform fs.handles
        ((onHandles (fs.responses actions)).map Prod.fst) = onHandles (fs.responses actions) ∧
      Inode.performAll Handle.Table.perform fs.handles
          ((onHandles (fs.responses actions)).map Prod.fst) =
        (Inode.performAll perform fs actions).handles := by
  induction actions generalizing fs with
  | nil => exact ⟨rfl, rfl⟩
  | cons action rest ih =>
    obtain ⟨same, ends⟩ := ih (fs.perform action).2
    have step := handles_perform fs action
    rw [responses_cons, onHandles, List.filterMap_cons, ← onHandles]
    cases seen : onHandles? (action, (fs.perform action).1) with
    | none =>
      rw [seen] at step
      dsimp only at step ⊢
      rw [step] at same ends
      exact ⟨same, ends⟩
    | some exchange =>
      obtain ⟨call, answer⟩ := exchange
      rw [seen] at step
      dsimp only at step ⊢
      rw [List.map_cons, Inode.transcript, Inode.performAll, step]
      exact ⟨congrArg _ same, ends⟩

theorem onHandles?_perform (fs : TreeFs) (action : Action) :
    let exchange := (action, (fs.perform action).1)
    ((onHandles? exchange).map fun seen => seen.1.isOpening).getD false = exchange.2.isOpened ∧
      ((onHandles? exchange).bind fun seen => seen.2.handle?) = exchange.2.handle? := by
  cases action with
  | resize path size => exact ⟨rfl, rfl⟩
  | query route context query =>
    cases query with
    | lookup request => exact ⟨rfl, rfl⟩
    | forget request => exact ⟨rfl, rfl⟩
    | openDir request =>
      simp only [perform]
      cases (fs.openDir request).1 <;> exact ⟨rfl, rfl⟩
    | releaseDir inode request => exact ⟨rfl, rfl⟩

/-- The opens that the handle table sees are those that are granted. -/
theorem opens_onHandles (fs : TreeFs) (actions : List Action) :
    Handle.opens (onHandles (fs.responses actions)) =
      (fs.responses actions).countP fun exchange => exchange.2.isOpened := by
  rw [Handle.opens, onHandles, List.countP_filterMap]
  induction actions generalizing fs with
  | nil => rfl
  | cons action rest ih =>
    rw [responses_cons, List.countP_cons, List.countP_cons, ih, (onHandles?_perform fs action).1]

/-- The handles that it hands out are those that actions are answered with. -/
theorem handedOut_onHandles (fs : TreeFs) (actions : List Action) :
    Handle.handedOut (onHandles (fs.responses actions)) =
      (fs.responses actions).filterMap fun exchange => exchange.2.handle? := by
  rw [Handle.handedOut, onHandles, List.filterMap_filterMap]
  induction actions generalizing fs with
  | nil => rfl
  | cons action rest ih =>
    rw [responses_cons, List.filterMap_cons, List.filterMap_cons, ih,
      (onHandles?_perform fs action).2]

/-- A directory was opened: nothing is changed but that one handle more is open, and stands for
that. -/
structure Opened (fs : TreeFs) (request : OpenDirRequest) (handle : HandleId) (after : TreeFs) :
    Prop where
  closed : fs.isOpen handle = false
  handles : ∀ other, after.dirHandle? other =
    if other = handle then some ⟨request.inode, request.flags⟩ else fs.dirHandle? other
  count : after.openHandles = fs.openHandles + 1
  inodes : after.inodes = fs.inodes
  tree : after.tree = fs.tree

theorem outcome_openDir_of_ok {context : Context} {request : OpenDirRequest} {handle : HandleId}
    (granted : (fs.openDir request).1 = .ok handle) :
    (handler.operations.openDir context request fs).outcome = .finished (.ok handle) := by
  show outcomeOf (fs.openDir request).1 = _
  rw [granted]
  rfl

/-- An open that is granted gets a handle that was never given out. -/
theorem opened_of_openDir {past : List (Handle.Call DirHandle × Handle.Answer DirHandle)}
    (kept : Handle.Kept past fs.handles) (few : Handle.opens past + 1 < UInt64.size)
    {request : OpenDirRequest} {handle : HandleId}
    (granted : (fs.openDir request).1 = .ok handle) :
    handle ∉ Handle.handedOut past ∧ fs.Opened request handle (fs.openDir request).2 := by
  cases checked : fs.checkOpenDir request with
  | error refusal =>
    rw [openDir_of_error checked] at granted
    cases granted
  | ok =>
    rw [openDir_of_ok checked] at granted ⊢
    cases granted
    have closed := kept.isOpen_next few
    refine ⟨kept.not_handedOut few, closed, ?_, ?_, rfl, rfl⟩
    · intro other
      exact Handle.Table.get?_openWith fs.handles _ other
    · show (fs.handles.openWith _).2.openCount = fs.handles.openCount + 1
      rw [Handle.Table.openCount_openWith]
      exact if_neg (Bool.not_eq_true _ ▸ closed)

/-- As long as there are numbers, the handles agree with what the filesystem in use has answered. -/
theorem kept_inUse (additions : List Addition) (policy : CachePolicy)
    (config : Inode.TableConfig) (hash : NodeKey → UInt64) (context : Context)
    (repliedAt : Instant) (actions : List Action)
    (few : ((ofTree (Tree.rootOnly.addAll additions).2 policy config hash).responses
      actions).countP (fun exchange => exchange.2.isOpened) < UInt64.size) :
    Handle.Kept
      (onHandles ((ofTree (Tree.rootOnly.addAll additions).2 policy config hash).responses actions))
      (inUse additions policy config hash context repliedAt actions).handles := by
  rw [inUse_eq]
  generalize started : ofTree (Tree.rootOnly.addAll additions).2 policy config hash = start at *
  have empty : start.handles = .empty := started ▸ rfl
  obtain ⟨same, ends⟩ := transcript_handles start actions
  rw [← opens_onHandles, ← same, Handle.opens_transcript] at few
  rw [← same, ← ends, empty]
  exact Handle.kept_run _ few

/-! ## The law -/

/-- **An open and a lookup of `.` agree on what a directory is.** After any additions and any
actions, take any ID and any flags. With flags that ask for nothing but reading — the access mode
is read-only, and neither truncation, creation nor appending is asked for — an open of the ID is
granted exactly if a lookup of `.` in it is, and otherwise ends with the same kind of error. With
any other flags an open is never granted: permission is denied exactly if the lookup is granted,
and otherwise it ends with the same kind of error as that. As long as there are handles left, an
open is granted with one that no action before was answered with, which is open from then on in
addition to those that were, and nothing else changes. -/
theorem openDir_agrees (additions : List Addition) (policy : CachePolicy)
    (config : Inode.TableConfig) (hash : NodeKey → UInt64) (context : Context)
    (repliedAt : Instant) (actions : List Action) :
    let start := ofTree (Tree.rootOnly.addAll additions).2 policy config hash
    let fs := inUse additions policy config hash context repliedAt actions
    (∀ id flags asked looked,
      let opened := (handler.operations.openDir asked ⟨id, flags⟩ fs).outcome
      let itself := (handler.operations.lookup looked ⟨id, .dot⟩ fs).outcome
      (flags.OnlyReads → opened.isGranted = itself.isGranted ∧ opened.kind? = itself.kind?) ∧
      (¬ flags.OnlyReads → opened.isGranted = false ∧
        (opened.kind? = some .permissionDenied ↔ itself.isGranted = true) ∧
        (itself.isGranted = false → opened.kind? = itself.kind?))) ∧
    ((start.responses actions).countP (fun exchange => exchange.2.isOpened) + 1 < UInt64.size →
      ∀ asked request handle,
        let effect := handler.operations.openDir asked request fs
        effect.outcome = .finished (.ok handle) →
        (∀ exchange ∈ start.responses actions, exchange.2.handle? ≠ some handle) ∧
          fs.Opened request handle effect.state) := by
  intro start fs
  have wf : fs.Wf := wf_inUse additions policy config hash context repliedAt actions
  constructor
  · intro id flags asked looked opened itself
    obtain ⟨kind?, obstacle⟩ := wf.exists_obstacle id
    have looks : itself.kind? = kind? := obstacle.kind?_lookup wf looked
    have opens : opened.kind? = kind?.or _ := obstacle.kind?_openDir asked flags
    have granted : opened.isGranted = opened.kind?.isNone :=
      isGranted_outcomeOf (fs.openDir ⟨id, flags⟩).1
    have found : itself.isGranted = itself.kind?.isNone :=
      isGranted_outcomeOf (fs.lookup looked.now ⟨id, .dot⟩).1
    rw [granted, found, looks, opens]
    constructor
    · intro reads
      rw [OpenFlags.requestsWrite_eq_false_iff.mpr reads]
      simp
    · intro writes
      rw [← OpenFlags.requestsWrite_eq_false_iff, Bool.not_eq_false] at writes
      have other := obstacle.ne_permissionDenied
      rw [writes]
      cases kind? with
      | none => simp
      | some kind => simpa using other
  · intro few asked request handle effect told
    have kept := kept_inUse additions policy config hash context repliedAt actions
      (Nat.lt_of_succ_lt few)
    rw [← opens_onHandles] at few
    obtain ⟨new, opened⟩ := opened_of_openDir kept few (ok_of_outcomeOf told)
    rw [handedOut_onHandles] at new
    refine ⟨?_, opened⟩
    intro exchange member same
    exact new (List.mem_filterMap.mpr ⟨exchange, member, same⟩)

/-- After the visit, `a` is opened a second time to be read, and denied to a writer; the ID of `b`
is not live, whatever it is opened for. -/
theorem openDir_agrees_visit :
    let context : Context := ⟨⟨1, 0, 0, 0⟩, .epoch⟩
    let fs := inUse [.file "a/b" 5] .disabled ⟨1, true⟩ (fun _ => 0) context .epoch visit
    let opened (id : InodeId) (flags : OpenFlags) :=
      handler.operations.openDir context ⟨id, flags⟩ fs
    (OpenFlags.mustBeDirectory.OnlyReads ∧
      (opened ⟨2⟩ .mustBeDirectory).outcome = .finished (.ok ⟨2⟩) ∧
      fs.Opened ⟨⟨2⟩, .mustBeDirectory⟩ ⟨2⟩ (opened ⟨2⟩ .mustBeDirectory).state) ∧
      ¬ OpenFlags.truncate.OnlyReads ∧
      (opened ⟨2⟩ .truncate).outcome.kind? = some .permissionDenied ∧
      (opened ⟨3⟩ .truncate).outcome.kind? = some .notFound := by
  intro context fs opened
  obtain ⟨agree, new⟩ := openDir_agrees [.file "a/b" 5] .disabled ⟨1, true⟩ (fun _ => 0) context
    .epoch visit
  have reads : OpenFlags.mustBeDirectory.OnlyReads := ⟨by decide, by decide, by decide, by decide⟩
  have writes : ¬ OpenFlags.truncate.OnlyReads := fun reads => absurd reads.noTruncate (by decide)
  have granted : (fs.openDir ⟨⟨2⟩, .mustBeDirectory⟩).1 = .ok ⟨2⟩ := by decide
  have told : (opened ⟨2⟩ .mustBeDirectory).outcome = .finished (.ok ⟨2⟩) :=
    outcome_openDir_of_ok granted
  have answered : (fs.lookup context.now ⟨⟨2⟩, .dot⟩).1 =
      .ok ⟨⟨2⟩, .initial, .directory, ⟨.disabled, .disabled⟩⟩ := by decide
  have refused : fs.resolveName ⟨⟨3⟩, .dot⟩ = .error (.notLive ⟨3⟩) :=
    resolveName_of_dead (show fs.isValid ⟨3⟩ = false by decide)
  refine ⟨⟨reads, told, (new (by decide) context _ _ told).2⟩, writes, ?_, ?_⟩
  · have denied := ((agree ⟨2⟩ .truncate context context).2 writes).2.1
    apply denied.mpr
    rw [outcome_lookup_of_ok answered]
    rfl
  · have same := ((agree ⟨3⟩ .truncate context context).2 writes).2.2
    rw [outcome_lookup_of_error refused] at same
    exact same rfl

end TreeFs

end UserFs
