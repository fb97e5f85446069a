import UserFs.Handler.Recorder
import UserFs.Handler.Unsupported
import UserFs.Proofs.Session.Acknowledged

/-!
# The numbers that errors are sent with

The kernel takes a positive number for an error. Whether an error has one depends on nothing but the
operating system's number that it was made from:

* **errors** — the numbers of the library's own errors are positive (`PosixError.code_pos`), and an
  error that was made from none of the operating system's has one of these; a number of the operating
  system's is kept, whatever it is (`FsError.errno_pos_iff`);
* **sessions** — a lookup or an open that ends with an error is answered with the error's number
  (`Session.Fails.reply_serveNow`), which is sent unless it is zero (`Session.Fails.reply_serve`).

`errno_kept` puts these together. The operating system's numbers are not looked at, so it is not the
case that all errors are sent with positive ones (`not_every_errno_positive`).
-/

namespace UserFs

/-! ## Errors -/

theorem PosixError.code_pos (error : PosixError) : 0 < error.code := by
  cases error <;> decide

namespace FsError

variable {error : FsError} {number? : Option Int32}

/-- The ways in which an error is made, and the number of the operating system's, if any, that it is
made from. -/
inductive Made : FsError → Option Int32 → Prop
  | ofKind (kind : ErrorKind) (context : String) : Made (kind.toError context) none
  | ofPosix (error : PosixError) : Made (.ofPosix error) (some error.code)
  | ofSystem (error : SystemError) : Made (.ofSystem error) error.code?

theorem Made.osCode_eq (made : error.Made number?) : error.osCode = number? := by
  cases made <;> rfl

theorem errno_of_osCode {number : Int32} (numbered : error.osCode = some number) :
    error.errno = number := by
  rw [errno, numbered, Option.getD_some]

theorem errno_of_unnumbered (unnumbered : error.osCode = none) :
    error.errno = error.kind.posix.code := by
  rw [errno, unnumbered, Option.getD_none]

/-- The number of an error is positive unless it is one of the operating system's that is not. -/
theorem errno_pos_iff (error : FsError) :
    0 < error.errno ↔ ∀ number, error.osCode = some number → 0 < number := by
  cases numbered : error.osCode with
  | none =>
    rw [errno_of_unnumbered numbered]
    exact iff_of_true (PosixError.code_pos _) nofun
  | some number =>
    rw [errno_of_osCode numbered]
    constructor
    · intro positive other same
      cases same
      exact positive
    · intro all
      exact all number rfl

end FsError

/-! ## Sessions -/

namespace Session

variable {σ : Type} {operations : Operations σ} {state : σ} {error : FsError} {arrival : Arrival}

/-- Whether the handler ends a lookup or an open with an error. -/
inductive Fails (operations : Operations σ) (state : σ) (error : FsError) : Arrival → Prop
  | lookup (context : Context) (repliedAt : Instant) (request : LookupRequest)
    (refused : (operations.lookup context { request with name := request.name.received }
      state).outcome = .finished (.error error)) :
    Fails operations state error ⟨context, repliedAt, .lookup request⟩
  | openDir (context : Context) (repliedAt : Instant) (request : OpenDirRequest)
    (refused : (operations.openDir context request state).outcome = .finished (.error error)) :
    Fails operations state error ⟨context, repliedAt, .openDir request⟩

theorem reply_of_error {α : Type} {effect : Effect σ α} {asked : String} {info : RequestInfo}
    (refused : effect.outcome = .finished (.error error)) (success : α → Reply) :
    (Session.reply effect asked info success).reply = some (.errno error.errno) := by
  rw [Session.reply, refused]
  rfl

/-- The answer is the number of the error. -/
theorem Fails.reply_serveNow (fails : Fails operations state error arrival) :
    (serveNow operations state arrival).1.reply = some (.errno error.errno) := by
  cases fails with
  | lookup context repliedAt request refused => exact reply_of_error refused _
  | openDir context repliedAt request refused => exact reply_of_error refused _

/-- A number other than zero is sent. -/
theorem Fails.reply_serve (fails : Fails operations state error arrival)
    (nonzero : error.errno ≠ 0) :
    ((⟨state, .serving⟩ : Session σ).serve operations arrival).1.bind Served.reply =
      some (.errno error.errno) := by
  have answer := fails.reply_serveNow
  have sendable : (serveNow operations state arrival).1.reply ≠ some (.errno 0) := by
    rw [answer]
    intro zero
    exact nonzero (Reply.errno.inj (Option.some.inj zero))
  show (send (serveNow operations state arrival)).1.reply = _
  rw [send_of_ne sendable]
  exact answer

/-- **Errors are sent with the numbers that they have.** A lookup or an open that the handler ends
with an error is answered with its number. That is the number of the operating system's that the
error was made from, and if it was made from none, the number of its kind. So it is positive exactly
if the error was not made from a number of the operating system's that is zero or negative; and a
positive number is sent as it is. -/
theorem errno_kept (operations : Operations σ) (state : σ) (error : FsError) (arrival : Arrival)
    (fails : Fails operations state error arrival) :
    (serveNow operations state arrival).1.reply = some (.errno error.errno) ∧
    (∀ number?, error.Made number? → error.osCode = number?) ∧
    (∀ number, error.osCode = some number → error.errno = number) ∧
    (error.osCode = none → error.errno = error.kind.posix.code) ∧
    (0 < error.errno ↔ ∀ number, error.osCode = some number → 0 < number) ∧
    (0 < error.errno → ((⟨state, .serving⟩ : Session σ).serve operations arrival).1.bind
      Served.reply = some (.errno error.errno)) := by
  refine ⟨fails.reply_serveNow, fun _ made => made.osCode_eq, fun _ => FsError.errno_of_osCode,
    FsError.errno_of_unnumbered, error.errno_pos_iff, ?_⟩
  intro positive
  apply fails.reply_serve
  intro zero
  rw [zero] at positive
  exact absurd positive (by decide)

/-- The error of a full storage is sent with its own number, and not with that of its kind. -/
theorem errno_kept_of_full :
    let full : FsError := .ofSystem (.numbered 28)
    let state : Recorder.State Unit := ⟨(), [], 0, some (.refusal full)⟩
    let arrival : Arrival := ⟨⟨⟨1, 0, 0, 0⟩, .epoch⟩, .epoch, .openDir ⟨.root, ⟨0⟩⟩⟩
    Fails (Recorder.operations (Unsupported.operations false)) state full arrival ∧
      full.kind.posix.code = 5 ∧
      ((⟨state, .serving⟩ : Session (Recorder.State Unit)).serve
        (Recorder.operations (Unsupported.operations false)) arrival).1.bind Served.reply =
          some (.errno 28) := by
  intro full state arrival
  have fails : Fails (Recorder.operations (Unsupported.operations false)) state full arrival :=
    .openDir _ _ _ rfl
  obtain ⟨_, made, numbered, _, positive, sent⟩ := errno_kept _ _ _ _ fails
  have number : full.errno = 28 := numbered 28 (made _ (.ofSystem (.numbered 28)))
  refine ⟨fails, rfl, ?_⟩
  rw [← number]
  apply sent
  rw [number]
  decide

/-- An error that was made from the operating system's number 0 is answered with 0. -/
theorem not_every_errno_positive : ¬ ∀ {σ : Type} (operations : Operations σ) (state : σ)
    (error : FsError) (number? : Option Int32) (arrival : Arrival), error.Made number? →
    Fails operations state error arrival →
    ∃ code, (serveNow operations state arrival).1.reply = some (.errno code) ∧ 0 < code := by
  intro every
  let error : FsError := .ofSystem (.numbered 0)
  obtain ⟨code, answer, positive⟩ := every (Recorder.operations (Unsupported.operations false))
    (⟨(), [], 0, some (.refusal error)⟩ : Recorder.State Unit) error (some 0)
    ⟨⟨⟨1, 0, 0, 0⟩, .epoch⟩, .epoch, .lookup ⟨.root, .ofString "a"⟩⟩ (.ofSystem (.numbered 0))
    (.lookup _ _ _ rfl)
  cases answer
  exact absurd positive (by decide)

end Session

end UserFs
