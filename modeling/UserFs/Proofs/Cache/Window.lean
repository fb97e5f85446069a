import UserFs.Reply.Entry

/-!
# The window in which a reply may be cached

The attributes and the entry of a name have a deadline each, but a reply has one time for both,
counted from when it was put together. A kernel that caches both for that time keeps either
deadline, and gives up neither sooner than it must:

* **one deadline** — less time has gone by than was left exactly until the deadline comes
  (`Expiration.lt_remaining_iff`), and always no time is left where nothing may be cached;
* **both** — less than the shorter of the two times has gone by exactly until one of the
  deadlines comes (`Validity.lt_common_iff`);
* `cached_while_valid` says so of the reply that is sent.
-/

namespace UserFs

/-- The time since an instant is known unless that instant is yet to come. -/
theorem Instant.exists_since? {time now : Instant} (later : time.isBefore now = false) :
    ∃ elapsed, time.since? now = some elapsed := by
  cases gone : time.since? now with
  | some elapsed => exact ⟨elapsed, rfl⟩
  | none =>
    have early : time.isBefore now = true := isBefore_iff.mpr (since?_eq_none_iff.mp gone)
    rw [early] at later
    cases later

variable {now time : Instant}

/-- Less time has gone by than was left exactly until the deadline comes. -/
theorem Expiration.lt_remaining_iff {expiration : Expiration}
    (later : now.toNanos ≤ time.toNanos) :
    time.toNanos - now.toNanos < (expiration.remaining now).toNanos ↔
      expiration.allowsCachingAt time = true := by
  cases expiration with
  | disabled =>
    rw [remaining_disabled, allowsCachingAt_disabled, Span.toNanos_zero]
    constructor
    · intro less
      omega
    · intro allowed
      cases allowed
  | upTo deadline =>
    have left := toNanos_remaining_upTo deadline now
    rw [allowsCachingAt_upTo, Instant.isBefore_iff]
    omega

/-- Less time has gone by than there was for both exactly until one of the deadlines comes. -/
theorem Validity.lt_common_iff {validity : Validity} (later : now.toNanos ≤ time.toNanos) :
    time.toNanos - now.toNanos < (validity.common now).toNanos ↔
      validity.attributesValidAt time = true ∧ validity.entryValidAt time = true := by
  have shorter : (validity.common now).toNanos =
      min (validity.attributes.remaining now).toNanos (validity.entry.remaining now).toNanos :=
    Span.toNanos_min _ _
  rw [attributesValidAt, entryValidAt, ← Expiration.lt_remaining_iff later,
    ← Expiration.lt_remaining_iff later, shorter]
  omega

/-- **A reply is cached while it is valid.** At any time since a reply was put together, less has
gone by than the time that was sent with it if and only if both the attributes and the entry may
still be served, whatever their deadlines are and also if one of them has none. -/
theorem cached_while_valid (entry : Entry) (info : RequestInfo) {now time : Instant}
    (later : time.isBefore now = false) :
    ∃ elapsed, time.since? now = some elapsed ∧
      (elapsed.toNanos : Int) = time.toNanos - now.toNanos ∧
      (elapsed.isShorter (EntryReply.ofEntry entry info now).ttl = true ↔
        entry.validity.attributesValidAt time = true ∧
          entry.validity.entryValidAt time = true) := by
  obtain ⟨elapsed, gone⟩ := Instant.exists_since? later
  have exact := Instant.toNanos_of_since?_eq_some gone
  have ordered : now.toNanos ≤ time.toNanos := by omega
  refine ⟨elapsed, gone, exact, ?_⟩
  rw [Span.isShorter_iff, ← Validity.lt_common_iff ordered, ← exact]
  exact Int.ofNat_lt.symm

/-- The attributes have a deadline before the epoch, and the entry has the epoch itself. A
nanosecond before the earlier one both may be served. -/
theorem cached_while_valid_before_epoch :
    let now : Instant := ⟨-2, 500000000, by decide, by decide, by decide⟩
    let time : Instant := ⟨-1, 299999999, by decide, by decide, by decide⟩
    let deadline : Instant := ⟨-1, 300000000, by decide, by decide, by decide⟩
    let entry : Entry := ⟨⟨2⟩, .initial, .directory, ⟨.upTo deadline, .upTo .epoch⟩⟩
    time.isBefore now = false ∧
      ∃ elapsed, time.since? now = some elapsed ∧ elapsed.toNanos = 799999999 ∧
        elapsed.isShorter (EntryReply.ofEntry entry ⟨1, 0, 0, 0⟩ now).ttl = true := by
  intro now time deadline entry
  have later : time.isBefore now = false := by decide
  obtain ⟨elapsed, gone, exact, shorter⟩ := cached_while_valid entry ⟨1, 0, 0, 0⟩ later
  have length : time.toNanos - now.toNanos = 799999999 := by decide
  refine ⟨later, elapsed, gone, by omega, ?_⟩
  exact shorter.mpr (by decide)

end UserFs
