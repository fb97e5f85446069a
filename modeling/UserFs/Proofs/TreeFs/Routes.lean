import UserFs.Proofs.TreeFs.Refusal
import UserFs.Proofs.TreeFs.Requests
import UserFs.Session
import UserFs.TreeFs.Handler

/-!
# Requests by either route

A request reaches the filesystem by a direct call of its handler or in a session with the
kernel, and both may be mixed. What is shown differs: a call returns the error of a request
that is refused, and a session sends its number and logs it. What is done is the same
(`act_lookup`, `act_forget`, `act_openDir`, `act_releaseDir`), but for names, which in a
session end at their first zero byte; and a session that is being served goes on being served.
-/

namespace UserFs.TreeFs

/-- How a request reaches the filesystem. -/
inductive Route where
  /-- The handler is called. -/
  | direct
  /-- The kernel sends it, and the reply is put together at this time. -/
  | session (repliedAt : Instant)
  deriving DecidableEq

/-- A request about an ID or a handle. -/
inductive Query where
  | lookup (request : LookupRequest)
  | forget (request : ForgetRequest)
  | openDir (request : OpenDirRequest)
  | releaseDir (inode : InodeId) (request : ReleaseRequest)
  deriving DecidableEq

/-- The request as the kernel sends it. -/
def Query.toKernel : Query → KernelRequest
  | lookup request => .lookup request
  | forget request => .forget request
  | openDir request => .openDir request
  | releaseDir inode request => .releaseDir inode request

/-- How a session names a request when it logs that it was refused. -/
def Query.asked : Query → String
  | lookup request => "lookup: parent " ++ Session.hex request.parent.raw
  | forget request => "forget: ino " ++ Session.hex request.inode.raw
  | openDir request => "opendir: ino " ++ Session.hex request.inode.raw
  | releaseDir inode request =>
    "releasedir: ino " ++ Session.hex inode.raw ++ ", fh " ++ Session.hex request.handle.raw

/-- What happens to a filesystem in use. -/
inductive Action where
  | query (route : Route) (context : Context) (query : Query)
  /-- A file gets another size from the outside. -/
  | resize (path : String) (size : UInt64)
  deriving DecidableEq

/-- What is shown of an action to whoever asked, and in the log. -/
structure Shown where
  /-- The incarnation that a lookup was answered with. -/
  found? : Option Incarnation
  refused : Bool
  /-- The error that a call returned. A session sends only its number. -/
  error? : Option FsError
  log : List LogRecord
  deriving DecidableEq

namespace Shown

/-- Nothing is shown. -/
def nothing : Shown := ⟨none, false, none, []⟩

/-- What a call of the handler shows; `found` is what its value says of a lookup. -/
def ofEffect {α : Type} (effect : Effect TreeFs α) (found : α → Option Incarnation) : Shown :=
  match effect.outcome with
  | .finished (.ok value) => ⟨found value, false, none, effect.log⟩
  | .finished (.error error) => ⟨none, true, some error, effect.log⟩
  | .panicked _ => ⟨none, true, none, effect.log⟩

/-- What a session shows. -/
def ofServed : Option Served → Shown
  | none => nothing
  | some ⟨some (.entry reply), log⟩ => ⟨some ⟨reply.record.ino, reply.generation⟩, false, none, log⟩
  | some ⟨some (.errno _), log⟩ => ⟨none, true, none, log⟩
  | some ⟨_, log⟩ => ⟨none, false, none, log⟩

/-- What is shown of a request with this result, by either route. -/
def ofResult {α : Type} (route : Route) (asked : String) (info : RequestInfo)
    (record : α → LogRecord) (found : α → Option Incarnation) : Except Refusal α → Shown
  | .ok value => ⟨found value, false, none, [record value]⟩
  | .error refusal =>
    match route with
    | .direct => ⟨none, true, some refusal.toError, []⟩
    | .session _ =>
      ⟨none, true, none,
        [Session.errorRecord refusal.toError.level asked refusal.toError info]⟩

/-- Whether a request was refused because an ID is not live: that is the error which a call
returned, or which a session logged. -/
def SaysNotLive (shown : Shown) (asked : String) (info : RequestInfo) : Prop :=
  shown.refused = true ∧ ∃ inode, shown.error? = some (Refusal.notLive inode).toError ∨
    ∃ level, Session.errorRecord level asked (Refusal.notLive inode).toError info ∈ shown.log

end Shown

/-- The request as it reaches the filesystem. -/
def Route.received : Route → LookupRequest → LookupRequest
  | direct, request => request
  | session _, request => { request with name := request.name.received }

@[simp]
theorem Route.parent_received (route : Route) (request : LookupRequest) :
    (route.received request).parent = request.parent := by
  cases route <;> rfl

/-- Calls the handler. -/
def callHandler (fs : TreeFs) (context : Context) : Query → Shown × TreeFs
  | .lookup request =>
    let effect := handler.operations.lookup context request fs
    (.ofEffect effect fun entry => some ⟨entry.child, entry.generation⟩, effect.state)
  | .forget request =>
    let effect := handler.operations.forget context request fs
    (.ofEffect effect fun _ => none, effect.state)
  | .openDir request =>
    let effect := handler.operations.openDir context request fs
    (.ofEffect effect fun _ => none, effect.state)
  | .releaseDir _ request =>
    let effect := handler.operations.release context request fs
    (.ofEffect effect fun _ => none, effect.state)

/-- Lets an action happen while a session is going on. -/
def act (session : Session TreeFs) : Action → Shown × Session TreeFs
  | .query .direct context query =>
    let (shown, fs) := session.state.callHandler context query
    (shown, { session with state := fs })
  | .query (.session repliedAt) context query =>
    let (served, after) :=
      session.serve handler.operations ⟨context, repliedAt, query.toKernel⟩
    (.ofServed served, after)
  | .resize path size =>
    (.nothing, { session with state := (session.state.resize path size).2 })

/-- The session after actions in order. -/
def run : Session TreeFs → List Action → Session TreeFs
  | session, [] => session
  | session, action :: rest => run (act session action).2 rest

/-- Actions in order, with what is shown of them. -/
def history : Session TreeFs → List Action → List (Action × Shown)
  | _, [] => []
  | session, action :: rest =>
    (action, (act session action).1) :: history (act session action).2 rest

theorem run_append (session : Session TreeFs) (first second : List Action) :
    run session (first ++ second) = run (run session first) second := by
  induction first generalizing session with
  | nil => rfl
  | cons action rest ih => exact ih (act session action).2

theorem history_append (session : Session TreeFs) (first second : List Action) :
    history session (first ++ second) =
      history session first ++ history (run session first) second := by
  induction first generalizing session with
  | nil => rfl
  | cons action rest ih => exact congrArg _ (ih (act session action).2)

theorem run_concat (session : Session TreeFs) (before : List Action) (action : Action) :
    run session (before ++ [action]) = (act (run session before) action).2 :=
  run_append session before [action]

theorem history_concat (session : Session TreeFs) (before : List Action) (action : Action) :
    history session (before ++ [action]) =
      history session before ++ [(action, (act (run session before) action).1)] :=
  history_append session before [action]

/-! ## What each request does -/

/-- What a call shows of a result. -/
theorem ofEffect_outcomeOf {α : Type} (result : Except Refusal α) (record : α → LogRecord)
    (found : α → Option Incarnation) (asked : String) (info : RequestInfo) (fs : TreeFs) :
    Shown.ofEffect ⟨outcomeOf result, (result.toOption.map record).toList, fs⟩ found =
      .ofResult .direct asked info record found result := by
  cases result <;> rfl

/-- What a session shows of a result. It is sent as it is, since no refusal has the number 0. -/
theorem ofServed_send {α : Type} (result : Except Refusal α) (record : α → LogRecord)
    (found : α → Option Incarnation) (asked : String) (info : RequestInfo) (fs : TreeFs)
    (repliedAt : Instant) (success : α → Reply)
    (sendable : ∀ value, success value ≠ .errno 0)
    (shows : ∀ value log,
      Shown.ofServed (some ⟨some (success value), log⟩) = ⟨found value, false, none, log⟩) :
    let sent := Session.send (Session.reply
      ⟨outcomeOf result, (result.toOption.map record).toList, fs⟩ asked info success,
      (⟨fs, .serving⟩ : Session TreeFs))
    (Shown.ofServed (some sent.1), sent.2) =
      (.ofResult (.session repliedAt) asked info record found result, ⟨fs, .serving⟩) := by
  intro sent
  cases result with
  | ok value =>
    have same : sent = (⟨some (success value), [record value]⟩, ⟨fs, .serving⟩) :=
      if_neg fun zero => sendable value (Option.some.inj zero)
    rw [same]
    exact congrArg (·, _) (shows value _)
  | error refusal =>
    have same : sent = (⟨some (.errno refusal.toError.errno),
        [Session.errorRecord refusal.toError.level asked refusal.toError info]⟩,
        ⟨fs, .serving⟩) :=
      if_neg fun zero =>
        refusal.errno_toError_ne_zero (Reply.errno.inj (Option.some.inj zero))
    rw [same]
    rfl

section

variable (fs : TreeFs) (route : Route) (context : Context)

theorem act_lookup (request : LookupRequest) :
    act ⟨fs, .serving⟩ (.query route context (.lookup request)) =
      (.ofResult route (Query.lookup request).asked context.info
          (lookupRecord (route.received request))
          (fun entry => some ⟨entry.child, entry.generation⟩)
          (fs.lookup context.now (route.received request)).1,
        ⟨(fs.lookup context.now (route.received request)).2, .serving⟩) := by
  cases route with
  | direct => exact congrArg (·, _) (ofEffect_outcomeOf _ _ _ _ _ _)
  | session repliedAt =>
    have sendable : ∀ reply, Reply.entry reply ≠ .errno 0 := fun _ same => Reply.noConfusion same
    exact ofServed_send (fs.lookup context.now _).1 _ _ _ _ _ repliedAt
      (fun entry => .entry (.ofEntry entry context.info repliedAt)) (fun _ => sendable _)
      fun _ _ => rfl

theorem act_forget (request : ForgetRequest) :
    act ⟨fs, .serving⟩ (.query route context (.forget request)) =
      (⟨none, false, none, [forgetRecord request.inode (fs.forget request).1]⟩,
        ⟨(fs.forget request).2, .serving⟩) := by
  cases route <;> rfl

theorem act_openDir (request : OpenDirRequest) :
    act ⟨fs, .serving⟩ (.query route context (.openDir request)) =
      (.ofResult route (Query.openDir request).asked context.info
          (openDirRecord request.inode) (fun _ => none) (fs.openDir request).1,
        ⟨(fs.openDir request).2, .serving⟩) := by
  cases route with
  | direct => exact congrArg (·, _) (ofEffect_outcomeOf _ _ _ _ _ _)
  | session repliedAt =>
    exact ofServed_send (fs.openDir request).1 _ _ _ _ _ repliedAt
      (fun handle => .opened handle 0) nofun fun _ _ => rfl

theorem act_releaseDir (inode : InodeId) (request : ReleaseRequest) :
    act ⟨fs, .serving⟩ (.query route context (.releaseDir inode request)) =
      (⟨none, false, none, [releaseRecord request.handle (fs.release request).1]⟩,
        ⟨(fs.release request).2, .serving⟩) := by
  cases route <;> rfl

end

/-- A request that is refused, if at all, for another reason does not show that an ID is not
live. -/
theorem not_saysNotLive_ofResult {α : Type} {result : Except Refusal α}
    (other : ∀ inode, result ≠ .error (.notLive inode)) (route : Route) (asked : String)
    (info : RequestInfo) (record : α → LogRecord) (found : α → Option Incarnation) :
    ¬ (Shown.ofResult route asked info record found result).SaysNotLive asked info := by
  rintro ⟨refused, inode, told⟩
  cases result with
  | ok value => cases refused
  | error refusal =>
    have differs : refusal.toError.text ≠ (Refusal.notLive inode).toError.text :=
      Refusal.text_ne_notLive (fun dead same => other dead (congrArg Except.error same)) inode
    cases route with
    | direct =>
      rcases told with returned | ⟨level, logged⟩
      · exact differs (congrArg FsError.text (Option.some.inj returned))
      · cases logged
    | session repliedAt =>
      rcases told with returned | ⟨level, logged⟩
      · cases returned
      -- around the text of the error, the two records are the same
      · have messages := (LogRecord.mk.inj (List.mem_singleton.mp logged)).2
        rw [String.append_left_inj, String.append_left_inj, String.append_right_inj] at messages
        exact differs messages.symm

end UserFs.TreeFs
