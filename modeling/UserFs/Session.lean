import UserFs.Handler.Basic
import UserFs.Reply.Answer
import UserFs.Reply.Entry

/-!
# Sessions with the kernel

A session serves the kernel's requests one at a time through a handler. An `init`, which the
handler can refuse, establishes it; before that, every other request fails and the handler
does not hear of it. The session ends with a `destroy`, which the handler gets even where the
kernel sends none.

Once the session is established, lookups, opens and releases are answered, each once, and
forgets never are. Releases are answered with success whatever the handler says. Where an
answer cannot be given, since the handler panics or reports the error number 0, an
input/output error takes its place and the session stops.

Two layers share this work. The driver turns a request into a call of the handler, logs and
answers (`serveNow`, with `serveInit`, `reply` and `acknowledgeWith`). The session library below
it is not described here any further than it can be observed: which requests it lets through
(`Phase`, `refuse`, `serve`), what it sends where there is no answer to send (`Reply.failed`,
`send`, `after`), where names end (`Name.received`), what it answers to a request that the
driver leaves to it (`getAttr`), and how it ends a session (`close`).
-/

namespace UserFs

/-- A request of the kernel. -/
inductive KernelRequest where
  | init
  | destroy
  | getAttr (inode : InodeId)
  | lookup (request : LookupRequest)
  | forget (request : ForgetRequest)
  | openDir (request : OpenDirRequest)
  | releaseDir (inode : InodeId) (request : ReleaseRequest)
  deriving DecidableEq, Repr

/-- What the kernel is sent. -/
inductive Reply where
  | ok
  | errno (code : Int32)
  | entry (reply : EntryReply)
  | opened (handle : HandleId) (openFlags : UInt32)
  deriving DecidableEq

/-- What the kernel is sent in place of an answer that cannot be given. -/
def Reply.failed : Reply := .errno PosixError.inputOutput.code

/-- A request, who makes it and when it is worked on, and the time at which the reply to it
is put together. -/
structure Arrival where
  context : Context
  repliedAt : Instant
  request : KernelRequest
  deriving DecidableEq

/-- How far a session has come. -/
inductive Phase where
  /-- The kernel has yet to establish the session. -/
  | awaitingInit
  | serving
  /-- No more requests are served, but the handler has not been told. -/
  | stopped
  /-- The handler has been told that the session is over. -/
  | ended
  deriving DecidableEq, Repr

/-- The state of the handler, and how far the session has come. -/
structure Session (σ : Type) where
  state : σ
  phase : Phase

/-- What serving one request shows: what is sent, if anything, and what is logged. -/
structure Served where
  reply : Option Reply
  log : List LogRecord
  deriving DecidableEq

namespace Session

variable {σ : Type}

/-- A session before its first request. -/
def start (state : σ) : Session σ := ⟨state, .awaitingInit⟩

/-- The session after a call of its handler. A handler that panics brings it to a stop. -/
def after {α : Type} (effect : Effect σ α) : Session σ where
  state := effect.state
  phase := match effect.outcome with
    | .finished _ => .serving
    | .panicked _ => .stopped

/-- The record of an error: what was asked, the error, and who asked. -/
def errorRecord (level : Level) (asked : String) (error : FsError) (info : RequestInfo) :
    LogRecord :=
  ⟨level, asked ++ ", [" ++ error.text ++ "], " ++ info.text⟩

/-- Sends the answer to a request that the kernel waits on. -/
def reply {α : Type} (effect : Effect σ α) (asked : String) (info : RequestInfo)
    (success : α → Reply) : Served :=
  match effect.outcome with
  | .panicked _ => ⟨some .failed, effect.log⟩
  | .finished result =>
    match Answer.ofResult result with
    | .reply value => ⟨some (success value), effect.log⟩
    | .failure error level =>
      ⟨some (.errno error.errno), effect.log ++ [errorRecord level asked error info]⟩

/-- Logs the error of a request that is acknowledged in any case; `acknowledgement` is what
is sent then. -/
def acknowledgeWith {α : Type} (effect : Effect σ α) (asked : String) (info : RequestInfo)
    (acknowledgement : Option Reply) : Served :=
  match effect.outcome with
  | .panicked _ => ⟨acknowledgement.map fun _ => .failed, effect.log⟩
  | .finished result =>
    ⟨acknowledgement, effect.log ++
      (acknowledge result).toList.map fun error => errorRecord .warn asked error info⟩

/-- Establishes the session, unless the handler refuses: then it is not served any further. -/
def serveInit (effect : Effect σ Unit) (info : RequestInfo) : Served × Session σ :=
  match effect.outcome with
  | .finished (.ok ()) =>
    (⟨some .ok, effect.log ++ [⟨.info, "session initialized, " ++ info.text⟩]⟩,
      ⟨effect.state, .serving⟩)
  | .finished (.error error) =>
    (⟨some (.errno error.errno), effect.log ++
      [⟨.warn, "init: [" ++ error.text ++ "], " ++ info.text⟩]⟩, ⟨effect.state, .stopped⟩)
  | .panicked _ => (⟨none, effect.log⟩, ⟨effect.state, .stopped⟩)

/-- An inode number as it stands in the records of a session. -/
def hex (raw : UInt64) : String := Text.lowerHex raw.toNat

/-- Serves one request of a session that lets it through. -/
def serveNow (operations : Operations σ) (state : σ) (arrival : Arrival) : Served × Session σ :=
  let context := arrival.context
  let info := context.info
  match arrival.request with
  | .init => serveInit (operations.init context state) info
  | .destroy =>
    let effect := operations.destroy state
    (⟨some .ok, effect.log⟩, ⟨effect.state, .ended⟩)
  | .getAttr _ => (⟨some (.errno PosixError.functionNotImplemented.code), []⟩, ⟨state, .serving⟩)
  | .lookup request =>
    let effect := operations.lookup context { request with name := request.name.received } state
    (reply effect ("lookup: parent " ++ hex request.parent.raw) info fun entry =>
      .entry (.ofEntry entry info arrival.repliedAt), after effect)
  | .forget request =>
    let effect := operations.forget context request state
    (acknowledgeWith effect ("forget: ino " ++ hex request.inode.raw) info none, after effect)
  | .openDir request =>
    let effect := operations.openDir context request state
    (reply effect ("opendir: ino " ++ hex request.inode.raw) info fun handle =>
      .opened handle 0, after effect)
  | .releaseDir inode request =>
    let effect := operations.release context request state
    (acknowledgeWith effect
      ("releasedir: ino " ++ hex inode.raw ++ ", fh " ++ hex request.handle.raw) info (some .ok),
      after effect)

/-- Sends what was served. The error number 0 cannot be sent, as it would say that all went
well: the request fails instead, and the session stops. -/
def send (result : Served × Session σ) : Served × Session σ :=
  if result.1.reply = some (.errno 0) then
    ({ result.1 with reply := some .failed }, { result.2 with phase := .stopped })
  else result

/-- Turns away a request that comes before the session is established. A `destroy` leaves
nothing to wait for. -/
def refuse (session : Session σ) (request : KernelRequest) : Served × Session σ :=
  (⟨some .failed, []⟩,
    if request = .destroy then { session with phase := .stopped } else session)

/-- Serves one request; a session that is over serves none and shows nothing. -/
def serve (operations : Operations σ) (session : Session σ) (arrival : Arrival) :
    Option Served × Session σ :=
  let shown := fun (result : Served × Session σ) => (some result.1, result.2)
  match session.phase with
  | .awaitingInit =>
    if arrival.request = .init then shown (send (serveNow operations session.state arrival))
    else shown (session.refuse arrival.request)
  | .serving => shown (send (serveNow operations session.state arrival))
  | .stopped | .ended => (none, session)

/-- Ends a session: the handler is told that it is over, unless it knows. -/
def close (operations : Operations σ) (session : Session σ) : Session σ :=
  match session.phase with
  | .ended => session
  | .awaitingInit | .serving | .stopped => ⟨(operations.destroy session.state).state, .ended⟩

/-- Serves requests in the order in which they arrive, as long as the session lasts. -/
def serveAll (operations : Operations σ) (session : Session σ) :
    List Arrival → List Served × Session σ
  | [] => ([], session)
  | arrival :: rest =>
    let (served, session) := session.serve operations arrival
    let (others, session) := session.serveAll operations rest
    (served.toList ++ others, session)

end Session

end UserFs
