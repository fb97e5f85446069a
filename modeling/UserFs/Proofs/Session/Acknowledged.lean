import Mathlib.Data.List.Forall2
import UserFs.Session
import UserFs.TreeFs.Handler

/-!
# What becomes of acknowledged requests

Forgets and releases are acknowledged whatever the handler says to them. So two handlers that do the
same, and answer lookups and opens alike, cannot be told apart by what is sent, however they differ
in what they say to forgets and releases (`Operations.Alike`):

* **one request** — what is sent depends on the outcome of a lookup or an open, and of the other
  requests on nothing (`Alike.serveNow`), and every request is answered as its kind asks for
  (`answered_serveNow`);
* **all requests** — by induction on the requests, with the handlers in like states
  (`Alike.driveAll`), also where a session stops since an answer cannot be sent (`Alike.serveAll`,
  `exists_taken`).

`acknowledged_results_unseen` puts these together.
-/

namespace UserFs

variable {σ τ α : Type}

/-! ## Handlers that differ in what they say to forgets and releases -/

/-- Effects with the same outcome that leave like states. -/
def Effect.SameOutcome (like : σ → τ → Prop) (first : Effect σ α) (second : Effect τ α) : Prop :=
  second.outcome = first.outcome ∧ like first.state second.state

/-- Effects with any two results that leave like states. -/
def Effect.AnyResult (like : σ → τ → Prop) (first : Effect σ α) (second : Effect τ α) : Prop :=
  (∃ result, first.outcome = .finished result) ∧ (∃ result, second.outcome = .finished result) ∧
    like first.state second.state

/-- Whether two handlers, from like states, answer lookups and opens alike and say anything to
forgets and releases, and stay in like states. -/
structure Operations.Alike (like : σ → τ → Prop) (first : Operations σ) (second : Operations τ) :
    Prop where
  lookup : ∀ context request {state other}, like state other →
    (first.lookup context request state).SameOutcome like (second.lookup context request other)
  openDir : ∀ context request {state other}, like state other →
    (first.openDir context request state).SameOutcome like (second.openDir context request other)
  forget : ∀ context request {state other}, like state other →
    (first.forget context request state).AnyResult like (second.forget context request other)
  release : ∀ context request {state other}, like state other →
    (first.release context request state).AnyResult like (second.release context request other)

/-- A handler that does what another one does, but says to forgets and releases what stands next in a
list of results. -/
def Operations.saying (operations : Operations σ) (results : Nat → Except FsError Unit) :
    Operations (σ × Nat) where
  init context state :=
    let effect := operations.init context state.1
    ⟨effect.outcome, effect.log, (effect.state, state.2)⟩
  destroy state :=
    let effect := operations.destroy state.1
    ⟨effect.outcome, effect.log, (effect.state, state.2)⟩
  lookup context request state :=
    let effect := operations.lookup context request state.1
    ⟨effect.outcome, effect.log, (effect.state, state.2)⟩
  forget context request state :=
    let effect := operations.forget context request state.1
    ⟨.finished (results state.2), effect.log, (effect.state, state.2 + 1)⟩
  openDir context request state :=
    let effect := operations.openDir context request state.1
    ⟨effect.outcome, effect.log, (effect.state, state.2)⟩
  release context request state :=
    let effect := operations.release context request state.1
    ⟨.finished (results state.2), effect.log, (effect.state, state.2 + 1)⟩

/-- Any results at all may be said to forgets and releases. -/
theorem Operations.alike_saying {operations : Operations σ}
    (forgets : ∀ context request state, ∃ result,
      (operations.forget context request state).outcome = .finished result)
    (releases : ∀ context request state, ∃ result,
      (operations.release context request state).outcome = .finished result)
    (results : Nat → Except FsError Unit) :
    operations.Alike (fun state other => other.1 = state) (operations.saying results) where
  lookup := by
    rintro context request state other rfl
    exact ⟨rfl, rfl⟩
  openDir := by
    rintro context request state other rfl
    exact ⟨rfl, rfl⟩
  forget := by
    rintro context request state other rfl
    exact ⟨forgets context request _, ⟨_, rfl⟩, rfl⟩
  release := by
    rintro context request state other rfl
    exact ⟨releases context request _, ⟨_, rfl⟩, rfl⟩

/-! ## What is sent -/

/-- Whether a request is a lookup, a forget, an open or a release. -/
def KernelRequest.isQuery : KernelRequest → Bool
  | .lookup _ | .forget _ | .openDir _ | .releaseDir _ _ => true
  | .init | .destroy | .getAttr _ => false

/-- What may be sent for a request: one reply to a lookup or an open, success to a release, and
nothing to a forget. -/
inductive KernelRequest.AnsweredBy : KernelRequest → Option Reply → Prop
  | entry (request : LookupRequest) (reply : EntryReply) :
    AnsweredBy (.lookup request) (some (.entry reply))
  | noEntry (request : LookupRequest) (code : Int32) :
    AnsweredBy (.lookup request) (some (.errno code))
  | forgotten (request : ForgetRequest) : AnsweredBy (.forget request) none
  | opened (request : OpenDirRequest) (handle : HandleId) :
    AnsweredBy (.openDir request) (some (.opened handle 0))
  | notOpened (request : OpenDirRequest) (code : Int32) :
    AnsweredBy (.openDir request) (some (.errno code))
  | released (inode : InodeId) (request : ReleaseRequest) :
    AnsweredBy (.releaseDir inode request) (some .ok)

namespace Session

/-- What is shown of requests in order when each one is worked on, whatever becomes of the answers. -/
def driveAll (operations : Operations σ) : σ → List Arrival → List Served
  | _, [] => []
  | state, arrival :: rest =>
    let (served, session) := serveNow operations state arrival
    served :: driveAll operations session.state rest

/-- Sessions that have come as far, with handlers in like states. -/
def Like (like : σ → τ → Prop) (session : Session σ) (other : Session τ) : Prop :=
  other.phase = session.phase ∧ like session.state other.state

section

variable {like : σ → τ → Prop} {asked : String} {info : RequestInfo}

theorem like_after {first : Effect σ α} {second : Effect τ α}
    (same : first.SameOutcome like second) : Like like (after first) (after second) := by
  refine ⟨?_, same.2⟩
  rw [after, same.1]
  rfl

theorem reply_of_sameOutcome {first : Effect σ α} {second : Effect τ α}
    (same : first.SameOutcome like second) (success : α → Reply) :
    (Session.reply second asked info success).reply =
      (Session.reply first asked info success).reply := by
  rw [Session.reply, Session.reply, same.1]
  cases first.outcome with
  | panicked message => rfl
  | finished result => cases result <;> rfl

/-- What is sent to a request that the kernel waits on is what was found, or the number of an error. -/
theorem reply_cases (effect : Effect σ α) (success : α → Reply) :
    (∃ value, effect.outcome = .finished (.ok value) ∧
        (Session.reply effect asked info success).reply = some (success value)) ∨
      ∃ code, (Session.reply effect asked info success).reply = some (.errno code) := by
  obtain ⟨outcome, log, state⟩ := effect
  cases outcome with
  | panicked message => exact .inr ⟨_, rfl⟩
  | finished result =>
    cases result with
    | ok value => exact .inl ⟨value, rfl, rfl⟩
    | error error => exact .inr ⟨_, rfl⟩

theorem like_after_of_anyResult {first : Effect σ α} {second : Effect τ α}
    (any : first.AnyResult like second) : Like like (after first) (after second) := by
  obtain ⟨⟨one, finished⟩, ⟨another, alsoFinished⟩, states⟩ := any
  refine ⟨?_, states⟩
  rw [after, after, finished, alsoFinished]

theorem acknowledgeWith_of_finished {effect : Effect σ α}
    (finished : ∃ result, effect.outcome = .finished result) (acknowledgement : Option Reply) :
    (acknowledgeWith effect asked info acknowledgement).reply = acknowledgement := by
  obtain ⟨result, finished⟩ := finished
  rw [acknowledgeWith, finished]

end

theorem send_of_ne {result : Served × Session σ} (sendable : result.1.reply ≠ some (.errno 0)) :
    send result = result :=
  if_neg sendable

theorem send_of_eq {result : Served × Session σ} (zero : result.1.reply = some (.errno 0)) :
    send result = (⟨some .failed, result.1.log⟩, ⟨result.2.state, .stopped⟩) :=
  if_pos zero

/-- Where an answer is sent in one session it is in a like one, and where it cannot be sent both
stop. -/
theorem like_send {like : σ → τ → Prop} {result : Served × Session σ}
    {otherResult : Served × Session τ} (same : otherResult.1.reply = result.1.reply)
    (sessions : Like like result.2 otherResult.2) :
    (send otherResult).1.reply = (send result).1.reply ∧
      Like like (send result).2 (send otherResult).2 := by
  by_cases zero : result.1.reply = some (.errno 0)
  · rw [send_of_eq zero, send_of_eq (same.trans zero)]
    exact ⟨rfl, rfl, sessions.2⟩
  · rw [send_of_ne zero, send_of_ne (same ▸ zero)]
    exact ⟨same, sessions⟩

/-- An answer that cannot be sent is replaced by an error, which answers a request as well. -/
theorem answeredBy_send {request : KernelRequest} {result : Served × Session σ}
    (answered : request.AnsweredBy result.1.reply) : request.AnsweredBy (send result).1.reply := by
  by_cases zero : result.1.reply = some (.errno 0)
  · rw [send_of_eq zero]
    rw [zero] at answered
    cases answered with
    | noEntry request => exact .noEntry request _
    | notOpened request => exact .notOpened request _
  · rw [send_of_ne zero]
    exact answered

/-- Before the session is established a query is turned away. -/
theorem serve_of_awaitingInit (operations : Operations σ) {session : Session σ}
    (awaiting : session.phase = .awaitingInit) {arrival : Arrival}
    (query : arrival.request.isQuery = true) :
    session.serve operations arrival = (some ⟨some .failed, []⟩, session) := by
  obtain ⟨context, repliedAt, request⟩ := arrival
  rw [serve, awaiting]
  cases request with
  | lookup | forget | openDir | releaseDir => rfl
  | init | destroy | getAttr => cases query

end Session

/-! ## One request -/

namespace Operations.Alike

variable {like : σ → τ → Prop} {first : Operations σ} {second : Operations τ} {state : σ}
  {other : τ} {arrival : Arrival}

theorem serveNow (alike : first.Alike like second) (states : like state other)
    (query : arrival.request.isQuery = true) :
    (Session.serveNow second other arrival).1.reply =
        (Session.serveNow first state arrival).1.reply ∧
      Session.Like like (Session.serveNow first state arrival).2
        (Session.serveNow second other arrival).2 := by
  obtain ⟨context, repliedAt, request⟩ := arrival
  cases request with
  | lookup request =>
    have same := alike.lookup context { request with name := request.name.received } states
    exact ⟨Session.reply_of_sameOutcome same _, Session.like_after same⟩
  | openDir request =>
    have same := alike.openDir context request states
    exact ⟨Session.reply_of_sameOutcome same _, Session.like_after same⟩
  | forget request =>
    have any := alike.forget context request states
    refine ⟨?_, Session.like_after_of_anyResult any⟩
    exact (Session.acknowledgeWith_of_finished any.2.1 none).trans
      (Session.acknowledgeWith_of_finished any.1 none).symm
  | releaseDir inode request =>
    have any := alike.release context request states
    refine ⟨?_, Session.like_after_of_anyResult any⟩
    exact (Session.acknowledgeWith_of_finished any.2.1 _).trans
      (Session.acknowledgeWith_of_finished any.1 _).symm
  | init | destroy | getAttr => cases query

theorem answered_serveNow (alike : first.Alike like second) (states : like state other)
    (query : arrival.request.isQuery = true) :
    arrival.request.AnsweredBy (Session.serveNow first state arrival).1.reply := by
  obtain ⟨context, repliedAt, request⟩ := arrival
  cases request with
  | lookup request =>
    show KernelRequest.AnsweredBy _ (Session.reply _ _ _ _).reply
    rcases Session.reply_cases _ _ with ⟨entry, _, sent⟩ | ⟨code, sent⟩
    · rw [sent]
      exact .entry request _
    · rw [sent]
      exact .noEntry request code
  | openDir request =>
    show KernelRequest.AnsweredBy _ (Session.reply _ _ _ _).reply
    rcases Session.reply_cases _ _ with ⟨handle, _, sent⟩ | ⟨code, sent⟩
    · rw [sent]
      exact .opened request handle
    · rw [sent]
      exact .notOpened request code
  | forget request =>
    have finished := (alike.forget context request states).1
    show KernelRequest.AnsweredBy _ (Session.acknowledgeWith _ _ _ none).reply
    rw [Session.acknowledgeWith_of_finished finished]
    exact .forgotten request
  | releaseDir inode request =>
    have finished := (alike.release context request states).1
    show KernelRequest.AnsweredBy _ (Session.acknowledgeWith _ _ _ (some .ok)).reply
    rw [Session.acknowledgeWith_of_finished finished]
    exact .released inode request
  | init | destroy | getAttr => cases query

theorem serve {session : Session σ} {otherSession : Session τ} (alike : first.Alike like second)
    (sessions : Session.Like like session otherSession)
    (query : arrival.request.isQuery = true) :
    (otherSession.serve second arrival).1.map Served.reply =
        (session.serve first arrival).1.map Served.reply ∧
      Session.Like like (session.serve first arrival).2 (otherSession.serve second arrival).2 := by
  obtain ⟨state, phase⟩ := session
  obtain ⟨other, otherPhase⟩ := otherSession
  obtain ⟨rfl, states⟩ := sessions
  cases otherPhase with
  | awaitingInit =>
    rw [Session.serve_of_awaitingInit first rfl query,
      Session.serve_of_awaitingInit second rfl query]
    exact ⟨rfl, rfl, states⟩
  | serving =>
    obtain ⟨replies, likeAfter⟩ := alike.serveNow states query
    obtain ⟨sent, likeSent⟩ := Session.like_send replies likeAfter
    exact ⟨congrArg some sent, likeSent⟩
  | stopped | ended => exact ⟨rfl, rfl, states⟩

end Operations.Alike

/-! ## All requests -/

/-- Whether an answer cannot be sent: the handler comes to no result, or to the error number 0. -/
def Outcome.Unsendable : Outcome α → Prop
  | .panicked _ => True
  | .finished (.error error) => error.errno = 0
  | .finished (.ok _) => False

/-- Whether the kernel waits for an answer that cannot be sent. -/
def Operations.CannotAnswer (operations : Operations σ) (state : σ) (arrival : Arrival) : Prop :=
  match arrival.request with
  | .lookup request =>
    (operations.lookup arrival.context { request with name := request.name.received }
      state).outcome.Unsendable
  | .openDir request => (operations.openDir arrival.context request state).outcome.Unsendable
  | _ => False

namespace Session

theorem serveAll_cons (operations : Operations σ) (session : Session σ) (arrival : Arrival)
    (rest : List Arrival) :
    session.serveAll operations (arrival :: rest) =
      ((session.serve operations arrival).1.toList ++
          ((session.serve operations arrival).2.serveAll operations rest).1,
        ((session.serve operations arrival).2.serveAll operations rest).2) := rfl

theorem serveAll_of_stopped (operations : Operations σ) {session : Session σ}
    (stopped : session.phase = .stopped) (arrivals : List Arrival) :
    session.serveAll operations arrivals = ([], session) := by
  have ignored : ∀ arrival, session.serve operations arrival = (none, session) := fun arrival => by
    rw [serve, stopped]
  induction arrivals with
  | nil => rfl
  | cons arrival rest ih =>
    rw [serveAll_cons, ignored]
    exact ih

/-- The answer to a request that the kernel waits on stops the session only if it cannot be sent. -/
theorem phase_send_reply (effect : Effect σ α) (asked : String) (info : RequestInfo)
    {success : α → Reply} (sendable : ∀ value, success value ≠ .errno 0) :
    (send (Session.reply effect asked info success, after effect)).2.phase = .serving ∨
      (send (Session.reply effect asked info success, after effect)).2.phase = .stopped ∧
        effect.outcome.Unsendable := by
  obtain ⟨outcome, log, state⟩ := effect
  cases outcome with
  | panicked message => exact .inr ⟨rfl, trivial⟩
  | finished result =>
    cases result with
    | ok value =>
      rw [send_of_ne fun zero => sendable value (Option.some.inj zero)]
      exact .inl rfl
    | error error =>
      by_cases zero : error.errno = 0
      · rw [send_of_eq (congrArg (some ∘ Reply.errno) zero)]
        exact .inr ⟨rfl, zero⟩
      · rw [send_of_ne fun same => zero (Reply.errno.inj (Option.some.inj same))]
        exact .inl rfl

/-- A request that is acknowledged does not stop the session. -/
theorem phase_send_acknowledgeWith {effect : Effect σ α} (asked : String) (info : RequestInfo)
    (finished : ∃ result, effect.outcome = .finished result) {acknowledgement : Option Reply}
    (sendable : acknowledgement ≠ some (.errno 0)) :
    (send (acknowledgeWith effect asked info acknowledgement, after effect)).2.phase = .serving := by
  rw [send_of_ne]
  · obtain ⟨result, finished⟩ := finished
    rw [after, finished]
  · rw [acknowledgeWith_of_finished finished]
    exact sendable

end Session

namespace Operations.Alike

variable {like : σ → τ → Prop} {first : Operations σ} {second : Operations τ} {state : σ}
  {other : τ}

/-- A query stops the session only if the kernel waits for an answer that cannot be sent. -/
theorem phase_send_serveNow (alike : first.Alike like second) (states : like state other)
    {arrival : Arrival} (query : arrival.request.isQuery = true) :
    (Session.send (Session.serveNow first state arrival)).2.phase = .serving ∨
      (Session.send (Session.serveNow first state arrival)).2.phase = .stopped ∧
        first.CannotAnswer state arrival := by
  obtain ⟨context, repliedAt, request⟩ := arrival
  cases request with
  | lookup request =>
    have sendable : ∀ reply, Reply.entry reply ≠ .errno 0 := fun _ same => Reply.noConfusion same
    exact Session.phase_send_reply _ _ _ fun _ => sendable _
  | openDir request =>
    exact Session.phase_send_reply _ _ _ fun _ same => Reply.noConfusion same
  | forget request =>
    left
    exact Session.phase_send_acknowledgeWith _ _ (alike.forget context request states).1
      (Option.some_ne_none _).symm
  | releaseDir inode request =>
    left
    exact Session.phase_send_acknowledgeWith _ _ (alike.release context request states).1
      fun same => Reply.noConfusion (Option.some.inj same)
  | init | destroy | getAttr => cases query

theorem driveAll (alike : first.Alike like second) (states : like state other)
    {arrivals : List Arrival} (queries : ∀ arrival ∈ arrivals, arrival.request.isQuery = true) :
    (Session.driveAll second other arrivals).map Served.reply =
        (Session.driveAll first state arrivals).map Served.reply ∧
      List.Forall₂ (fun arrival served => arrival.request.AnsweredBy served.reply) arrivals
        (Session.driveAll first state arrivals) := by
  induction arrivals generalizing state other with
  | nil => exact ⟨rfl, .nil⟩
  | cons arrival rest ih =>
    obtain ⟨query, later⟩ := List.forall_mem_cons.mp queries
    obtain ⟨same, sessions⟩ := alike.serveNow states query
    obtain ⟨sameLater, answered⟩ := ih sessions.2 later
    exact ⟨congrArg₂ List.cons same sameLater, .cons (alike.answered_serveNow states query) answered⟩

theorem serveAll (alike : first.Alike like second) {session : Session σ} {otherSession : Session τ}
    (sessions : Session.Like like session otherSession) {arrivals : List Arrival}
    (queries : ∀ arrival ∈ arrivals, arrival.request.isQuery = true) :
    (otherSession.serveAll second arrivals).1.map Served.reply =
      (session.serveAll first arrivals).1.map Served.reply := by
  induction arrivals generalizing session otherSession with
  | nil => rfl
  | cons arrival rest ih =>
    obtain ⟨query, later⟩ := List.forall_mem_cons.mp queries
    obtain ⟨same, sessionsAfter⟩ := alike.serve sessions query
    rw [Session.serveAll_cons, Session.serveAll_cons, List.map_append, List.map_append,
      ih sessionsAfter later, ← Option.toList_map, ← Option.toList_map, same]

/-- A session that is being served answers its requests one after another, and all of them unless an
answer cannot be sent. -/
theorem exists_taken (alike : first.Alike like second) (states : like state other)
    {arrivals : List Arrival} (queries : ∀ arrival ∈ arrivals, arrival.request.isQuery = true) :
    ∃ taken left, arrivals = taken ++ left ∧
      List.Forall₂ (fun arrival served => arrival.request.AnsweredBy served.reply) taken
        (Session.serveAll first ⟨state, .serving⟩ arrivals).1 ∧
      (left = [] ∨ ∃ before last, taken = before ++ [last] ∧
        first.CannotAnswer (Session.serveAll first ⟨state, .serving⟩ before).2.state last) := by
  induction arrivals generalizing state other with
  | nil => exact ⟨[], [], rfl, .nil, .inl rfl⟩
  | cons arrival rest ih =>
    obtain ⟨query, later⟩ := List.forall_mem_cons.mp queries
    have sessions : Session.Like like ⟨state, .serving⟩ ⟨other, .serving⟩ := ⟨rfl, states⟩
    obtain ⟨_, _, statesAfter⟩ := alike.serve sessions query
    have answered := Session.answeredBy_send (alike.answered_serveNow states query)
    have served : (⟨state, .serving⟩ : Session σ).serve first arrival =
        (some (Session.send (Session.serveNow first state arrival)).1,
          (Session.send (Session.serveNow first state arrival)).2) := rfl
    rcases alike.phase_send_serveNow states query with serving | ⟨stopped, cannot⟩
    · -- the session goes on from where the request has left it
      have going : ((⟨state, .serving⟩ : Session σ).serve first arrival).2 =
          ⟨((⟨state, .serving⟩ : Session σ).serve first arrival).2.state, .serving⟩ := by
        rw [served]
        exact congrArg (Session.mk _) serving
      obtain ⟨taken, left, rfl, answers, all⟩ := ih statesAfter later
      refine ⟨arrival :: taken, left, rfl, ?_, ?_⟩
      · rw [Session.serveAll_cons, going]
        exact .cons answered answers
      · rcases all with none | ⟨before, last, rfl, cannot⟩
        · exact .inl none
        · refine .inr ⟨arrival :: before, last, rfl, ?_⟩
          rw [Session.serveAll_cons, going]
          exact cannot
    · refine ⟨[arrival], rest, rfl, ?_, .inr ⟨[], arrival, rfl, cannot⟩⟩
      rw [Session.serveAll_cons, served]
      dsimp only
      rw [Session.serveAll_of_stopped first stopped]
      exact .cons answered .nil

end Operations.Alike

/-- **What is said to forgets and releases is not seen.** Let two handlers do the same and answer
lookups and opens alike, from like states, while they may say anything to forgets and releases. Then
for any lookups, forgets, opens and releases the same is sent, in the same order: one reply to every
lookup and every open, success to every release, and nothing to a forget. The same is sent in a
session with either handler, in which the requests are answered in this way for as long as it lasts,
and it lasts until an answer that the kernel waits for cannot be sent. -/
theorem acknowledged_results_unseen {like : σ → τ → Prop} {first : Operations σ}
    {second : Operations τ} (alike : first.Alike like second) {state : σ} {other : τ}
    (states : like state other) {arrivals : List Arrival}
    (queries : ∀ arrival ∈ arrivals, arrival.request.isQuery = true) :
    let answered := fun (arrival : Arrival) (served : Served) =>
      arrival.request.AnsweredBy served.reply
    let session := (⟨state, .serving⟩ : Session σ).serveAll first
    let otherSession := (⟨other, .serving⟩ : Session τ).serveAll second
    (Session.driveAll second other arrivals).map Served.reply =
      (Session.driveAll first state arrivals).map Served.reply ∧
    List.Forall₂ answered arrivals (Session.driveAll first state arrivals) ∧
    (otherSession arrivals).1.map Served.reply = (session arrivals).1.map Served.reply ∧
    ∃ taken left, arrivals = taken ++ left ∧ List.Forall₂ answered taken (session arrivals).1 ∧
      (left = [] ∨ ∃ before last, taken = before ++ [last] ∧
        first.CannotAnswer (session before).2.state last) := by
  intro answered session otherSession
  obtain ⟨same, driven⟩ := alike.driveAll states queries
  refine ⟨same, driven, alike.serveAll ?_ queries, alike.exists_taken states queries⟩
  exact ⟨rfl, states⟩

/-- A handler that loses every second forget or release sends what the tree filesystem sends. -/
theorem acknowledged_results_unseen_lossy :
    let context : Context := ⟨⟨1, 0, 0, 0⟩, .epoch⟩
    let arrivals : List Arrival := [
      ⟨context, .epoch, .lookup ⟨.root, .ofString "a"⟩⟩,
      ⟨context, .epoch, .forget ⟨⟨2⟩, 1⟩⟩,
      ⟨context, .epoch, .openDir ⟨.root, .readOnly⟩⟩,
      ⟨context, .epoch, .releaseDir .root ⟨⟨1⟩⟩⟩,
      ⟨context, .epoch, .releaseDir .root ⟨⟨1⟩⟩⟩]
    let fs : TreeFs := .ofTree (Tree.rootOnly.addAll [.dir "a"]).2 .disabled ⟨1, true⟩ fun _ => 0
    let sound := TreeFs.handler.operations
    let lost := ErrorKind.inputOutput.toError "lost"
    let lossy := sound.saying fun number => if number % 2 = 0 then .error lost else .ok ()
    (lossy.forget context ⟨⟨2⟩, 1⟩ (fs, 0)).outcome = .finished (.error lost) ∧
    (∀ arrival ∈ arrivals, arrival.request.isQuery = true) ∧
    (Session.driveAll lossy (fs, 0) arrivals).map Served.reply =
      (Session.driveAll sound fs arrivals).map Served.reply := by
  intro context arrivals fs sound lost lossy
  have alike : sound.Alike (fun state other => other.1 = state) lossy :=
    Operations.alike_saying (fun _ _ _ => ⟨_, rfl⟩) (fun _ _ _ => ⟨_, rfl⟩) _
  have queries : ∀ arrival ∈ arrivals, arrival.request.isQuery = true := by decide
  have states : (fs, 0).1 = fs := rfl
  exact ⟨rfl, queries, (acknowledged_results_unseen alike states queries).1⟩

end UserFs
