import UserFs.Proofs.Cache.Deadline
import UserFs.Proofs.Session.Acknowledged
import UserFs.Proofs.TreeFs.Requests

/-!
# The time that is sent with a lookup

A policy fixes for how long attributes and entries may be cached, from the time of the lookup on.
The reply to it is put together later, and has one time for both:

* **one axis** — nothing may be cached if its time is not set, or zero, or leaves the clock
  (`remaining_of_uncached`); otherwise what is left of it is what has not gone by
  (`toNanos_remaining_of_cached`);
* **both** — what is left of both is what is left of the shorter time (`leaves_common`);
* **a session** — an entry that is sent is one that a lookup found, with the deadlines that the
  policy of the filesystem fixed then (`exists_entry_of_serve`, `validity_of_lookup`).

`lookup_ttl` puts these together.
-/

namespace UserFs

/-! ## One axis of a policy -/

namespace CachePolicy

variable {looked replied : Instant} {ttl : Option Span}

/-- Whether a time of a policy keeps what is looked up at `looked` from being cached. -/
inductive Uncached (looked : Instant) : Option Span → Prop
  | unset : Uncached looked none
  | zero : Uncached looked (some .zero)
  | offClock {span : Span} (beyond : Instant.last.toNanos < looked.toNanos + span.toNanos) :
    Uncached looked (some span)

theorem uncached_some_iff {span : Span} : Uncached looked (some span) ↔
    span = .zero ∨ Instant.last.toNanos < looked.toNanos + span.toNanos := by
  constructor
  · intro uncached
    cases uncached with
    | zero => exact .inl rfl
    | offClock beyond => exact .inr beyond
  · rintro (rfl | beyond)
    · exact .zero
    · exact .offClock beyond

instance : Decidable (Uncached looked ttl) :=
  match ttl with
  | none => .isTrue .unset
  | some _ => decidable_of_iff _ uncached_some_iff.symm

theorem expire_of_uncached (uncached : Uncached looked ttl) : expire looked ttl = .disabled := by
  cases uncached with
  | unset | zero => rfl
  | @offClock span beyond =>
    have leaves : looked.add? span = none := Instant.add?_eq_none_iff_last_lt.mpr beyond
    rw [expire, Expiration.after_eq_disabled_iff.mpr leaves, ite_self]

/-- A time that lets something be cached ends on the clock. -/
theorem exists_deadline {span : Span} (cached : ¬Uncached looked (some span)) :
    ∃ deadline, expire looked (some span) = .upTo deadline ∧
      deadline.toNanos = looked.toNanos + span.toNanos := by
  have positive : ¬span.isZero = true := by
    intro isZero
    have zero : span = .zero := Span.toNanos_inj (Span.isZero_iff.mp isZero)
    exact cached (zero ▸ .zero)
  cases ends : looked.add? span with
  | none => exact absurd (.offClock (Instant.add?_eq_none_iff_last_lt.mp ends)) cached
  | some deadline =>
    refine ⟨deadline, ?_, Instant.toNanos_of_add?_eq_some ends⟩
    rw [expire, if_neg positive]
    exact Expiration.after_eq_upTo_iff.mpr ends

theorem remaining_of_uncached (uncached : Uncached looked ttl) (replied : Instant) :
    (expire looked ttl).remaining replied = .zero := by
  rw [expire_of_uncached uncached, Expiration.remaining_disabled]

/-- What is left of a time is what has not gone by. -/
theorem toNanos_remaining_of_cached {span : Span} (cached : ¬Uncached looked (some span))
    (replied : Instant) :
    (((expire looked (some span)).remaining replied).toNanos : Int) =
      max (span.toNanos - (replied.toNanos - looked.toNanos)) 0 := by
  obtain ⟨deadline, expires, ends⟩ := exists_deadline cached
  rw [expires, Expiration.toNanos_remaining_upTo, ends]
  omega

theorem toNanos_remaining_le (ordered : looked.toNanos ≤ replied.toNanos) (span : Span) :
    ((expire looked (some span)).remaining replied).toNanos ≤ span.toNanos := by
  by_cases uncached : Uncached looked (some span)
  · rw [remaining_of_uncached uncached]
    exact Nat.zero_le _
  · have left := toNanos_remaining_of_cached uncached replied
    omega

/-! ## Both axes -/

/-- Whether `ttl` is what a policy leaves at `replied` of its times, counted from `looked`: none if
one of the two lets nothing be cached, otherwise what has not gone by of the shorter one; and never
more than either. -/
structure Leaves (policy : CachePolicy) (looked replied : Instant) (ttl : Span) : Prop where
  nothing : Uncached looked policy.attributesTtl ∨ Uncached looked policy.entryTtl → ttl = .zero
  shorter : ∀ attributes entry, policy.attributesTtl = some attributes →
    policy.entryTtl = some entry → ¬Uncached looked (some attributes) →
    ¬Uncached looked (some entry) → (ttl.toNanos : Int) =
      max (min (attributes.toNanos : Int) entry.toNanos - (replied.toNanos - looked.toNanos)) 0
  le_attributes : ∀ span, policy.attributesTtl = some span → ttl.toNanos ≤ span.toNanos
  le_entry : ∀ span, policy.entryTtl = some span → ttl.toNanos ≤ span.toNanos

theorem toNanos_common (policy : CachePolicy) (looked replied : Instant) :
    ((policy.validity looked).common replied).toNanos =
      min ((expire looked policy.attributesTtl).remaining replied).toNanos
        ((expire looked policy.entryTtl).remaining replied).toNanos :=
  Span.toNanos_min _ _

theorem leaves_common (policy : CachePolicy) (ordered : looked.toNanos ≤ replied.toNanos) :
    policy.Leaves looked replied ((policy.validity looked).common replied) where
  nothing := by
    intro uncached
    apply Span.toNanos_inj
    rw [toNanos_common]
    rcases uncached with attributes | entry
    · rw [remaining_of_uncached attributes]
      exact Nat.zero_min _
    · rw [remaining_of_uncached entry]
      exact Nat.min_zero _
  shorter := by
    intro attributes entry setAttributes setEntry cachedAttributes cachedEntry
    have leftOfAttributes := toNanos_remaining_of_cached cachedAttributes replied
    have leftOfEntry := toNanos_remaining_of_cached cachedEntry replied
    rw [toNanos_common, setAttributes, setEntry]
    omega
  le_attributes := by
    intro span set
    rw [toNanos_common, set]
    exact Nat.le_trans (Nat.min_le_left _ _) (toNanos_remaining_le ordered span)
  le_entry := by
    intro span set
    rw [toNanos_common, set]
    exact Nat.le_trans (Nat.min_le_right _ _) (toNanos_remaining_le ordered span)

end CachePolicy

/-! ## Lookups in a session -/

theorem TreeFs.validity_of_lookup {fs : TreeFs} {now : Instant} {request : LookupRequest}
    {entry : Entry} (found : (fs.lookup now request).1 = .ok entry) :
    entry.validity = fs.policy.validity now := by
  cases resolved : fs.resolveName request with
  | error refusal =>
    rw [lookup_of_error resolved] at found
    cases found
  | ok pair =>
    rw [lookup_of_ok resolved] at found
    dsimp only at found
    split at found
    · cases found
    · cases found
      rfl

namespace Session

/-- An entry that is sent was found by the handler, and put together when the reply was. -/
theorem exists_entry_of_serve {σ : Type} {operations : Operations σ} {session : Session σ}
    {context : Context} {replied : Instant} {request : LookupRequest} {sent : EntryReply}
    (served : (session.serve operations ⟨context, replied, .lookup request⟩).1.bind Served.reply =
      some (.entry sent)) :
    ∃ entry, (operations.lookup context { request with name := request.name.received }
        session.state).outcome = .finished (.ok entry) ∧
      sent = .ofEntry entry context.info replied := by
  obtain ⟨state, phase⟩ := session
  cases phase with
  | awaitingInit =>
    rw [serve_of_awaitingInit operations rfl rfl] at served
    cases served
  | stopped | ended => cases served
  | serving =>
    have shown : (send (serveNow operations state ⟨context, replied, .lookup request⟩)).1.reply =
        some (.entry sent) := served
    by_cases zero : (serveNow operations state ⟨context, replied, .lookup request⟩).1.reply =
        some (.errno 0)
    · rw [send_of_eq zero] at shown
      cases shown
    · rw [send_of_ne zero] at shown
      rcases reply_cases _ _ with ⟨entry, found, answered⟩ | ⟨code, answered⟩
      · cases shown.symm.trans answered
        exact ⟨entry, found, rfl⟩
      · cases shown.symm.trans answered

end Session

/-- **What is left of the policy's times is sent.** Let a reply be put together no earlier than the
deadlines of its entry were fixed by a policy. No time is sent if either time of the policy is not
set, or zero, or ends after the last instant; otherwise the shorter one of them, less the time that
has gone by in between, and no time if it has all gone by. So it is never more than either time of
the policy, and neither deadline depends on the time that is set for the other. The replies that the
filesystem's sessions send to lookups have the times of its policy. -/
theorem lookup_ttl (policy : CachePolicy) {looked replied : Instant}
    (ordered : replied.isBefore looked = false) :
    (∀ (entry : Entry) (info : RequestInfo), entry.validity = policy.validity looked →
      policy.Leaves looked replied (EntryReply.ofEntry entry info replied).ttl) ∧
    (∀ (session : Session TreeFs) (info : RequestInfo) (request : LookupRequest)
      (sent : EntryReply), session.state.policy = policy →
      (session.serve TreeFs.handler.operations
        ⟨⟨info, looked⟩, replied, .lookup request⟩).1.bind Served.reply = some (.entry sent) →
      policy.Leaves looked replied sent.ttl) ∧
    ∀ ttl, ((policy.withEntryTtl ttl).validity looked).attributes =
        (policy.validity looked).attributes ∧
      ((policy.withAttributesTtl ttl).validity looked).entry = (policy.validity looked).entry := by
  have notBefore : looked.toNanos ≤ replied.toNanos := Instant.isBefore_eq_false_iff.mp ordered
  have entries : ∀ (entry : Entry) (info : RequestInfo), entry.validity = policy.validity looked →
      policy.Leaves looked replied (EntryReply.ofEntry entry info replied).ttl := by
    intro entry info fixed
    rw [EntryReply.ofEntry, fixed]
    exact policy.leaves_common notBefore
  refine ⟨entries, ?_, fun _ => ⟨rfl, rfl⟩⟩
  intro session info request sent ours served
  obtain ⟨entry, granted, rfl⟩ := Session.exists_entry_of_serve served
  have fixed := TreeFs.validity_of_lookup (TreeFs.ok_of_outcomeOf granted)
  exact entries entry info (ours ▸ fixed)

/-- The clock goes halfway round while a lookup is on its way, and longer times than that are set:
the shorter one is left but for what has gone by, a second being borrowed. -/
theorem lookup_ttl_of_long_times :
    let looked : Instant := ⟨-0x8000000000000000, 500000000, by decide, by decide, by decide⟩
    let replied : Instant := ⟨-1, 400000000, by decide, by decide, by decide⟩
    let longer : Span := ⟨0xFFFFFFFFFFFFFFFF, 0, by decide, by decide⟩
    let shorter : Span := ⟨0x8000000000000000, 300000000, by decide, by decide⟩
    let fs : TreeFs := .ofTree Tree.rootOnly ⟨some longer, some shorter⟩ ⟨1, true⟩ fun _ => 0
    let session : Session TreeFs := ⟨fs, .serving⟩
    let arrival : Arrival := ⟨⟨⟨1, 0, 0, 0⟩, looked⟩, replied, .lookup ⟨.root, .ofString "."⟩⟩
    replied.isBefore looked = false ∧
      ∃ sent, (session.serve TreeFs.handler.operations arrival).1.bind Served.reply =
        some (.entry sent) ∧ sent.ttl.toNanos = 1400000000 := by
  intro looked replied longer shorter fs session arrival
  have ordered : replied.isBefore looked = false := by decide
  have leaves := (lookup_ttl ⟨some longer, some shorter⟩ ordered).2.1 session ⟨1, 0, 0, 0⟩
    ⟨.root, .ofString "."⟩ _ rfl rfl
  have cachedLonger : ¬CachePolicy.Uncached looked (some longer) := by decide
  have cachedShorter : ¬CachePolicy.Uncached looked (some shorter) := by decide
  have left := leaves.shorter longer shorter rfl rfl cachedLonger cachedShorter
  have exact : max (min (longer.toNanos : Int) shorter.toNanos -
      (replied.toNanos - looked.toNanos)) 0 = 1400000000 := by decide
  exact ⟨ordered, _, rfl, Int.ofNat_inj.mp (left.trans exact)⟩

end UserFs
