import UserFs.Proofs.Cache.Window

/-!
# Deadlines to the nanosecond

The seconds of an instant are signed and those of a span are not, and nanoseconds carry into the
one and borrow from the other. None of this shows in a deadline:

* **the ends of the clock** — every instant lies between `Instant.first` and `Instant.last`, which
  are the longest span apart (`Instant.exists_since?_eq`, `Span.toNanos_le_longest`), so a span may
  lead past the end of the clock, but the time between two instants is always a span;
* **a time from now** — it ends exactly that much later (`Expiration.exists_deadline_of_after`), or
  in a second that the clock does not have (`Expiration.isDisabled_after_iff`);
* **what is left** — it is the exact difference (`Expiration.exists_remaining_eq`), it goes by as
  time does (`Expiration.toNanos_remaining_later`), and so caching is refused for good
  (`Expiration.refused_later`).

`deadlines_exact` puts these together.
-/

namespace UserFs

/-! ## The ends of the clock -/

namespace Span

/-- The longest span. -/
def longest : Span := ⟨0xFFFFFFFFFFFFFFFF, 999999999, by omega, by omega⟩

theorem toNanos_longest : longest.toNanos = 0x10000000000000000 * 1000000000 - 1 := by decide

theorem toNanos_le_longest (span : Span) : span.toNanos ≤ longest.toNanos := by
  have secondsLt := span.seconds_lt
  have nanosLt := span.nanos_lt
  rw [toNanos_longest, toNanos]
  omega

end Span

namespace Instant

/-- The first point of the clock. -/
def first : Instant :=
  { epoch with seconds := -0x8000000000000000, le_seconds := by omega, seconds_lt := by omega }

/-- The last point of the clock. -/
def last : Instant := ⟨0x7FFFFFFFFFFFFFFF, 999999999, by omega, by omega, by omega⟩

theorem toNanos_last : last.toNanos = 0x8000000000000000 * 1000000000 - 1 := by decide

/-- A span leaves the clock exactly if it ends after the last instant. -/
theorem add?_eq_none_iff_last_lt {instant : Instant} {span : Span} :
    instant.add? span = none ↔ last.toNanos < instant.toNanos + span.toNanos := by
  rw [add?_eq_none_iff, toNanos_last]
  omega

/-- The time from an instant to another that is not before it is a span, and exact. -/
theorem exists_since?_eq {later earlier : Instant} (ordered : later.isBefore earlier = false) :
    ∃ span, later.since? earlier = some span ∧
      (span.toNanos : Int) = later.toNanos - earlier.toNanos := by
  obtain ⟨span, between⟩ := exists_since? ordered
  exact ⟨span, between, toNanos_of_since?_eq_some between⟩

end Instant

/-! ## Deadlines -/

namespace Expiration

variable {expiration : Expiration} {now time later deadline : Instant} {ttl : Span}

theorem isDisabled_iff : expiration.isDisabled = true ↔ expiration = .disabled := by
  cases expiration <;> simp [isDisabled]

/-- A time from now is no deadline exactly if the second in which it ends is not on the clock. -/
theorem isDisabled_after_iff : (after now ttl).isDisabled = true ↔
    Instant.last.seconds < (now.toNanos + ttl.toNanos) / 1000000000 := by
  have lastSecond : Instant.last.seconds = 0x7FFFFFFFFFFFFFFF := rfl
  rw [isDisabled_iff, after_eq_disabled_iff, Instant.add?_eq_none_iff, lastSecond]
  omega

/-- Otherwise the deadline is that time from now. -/
theorem exists_deadline_of_after (enabled : (after now ttl).isDisabled = false) :
    ∃ deadline, (after now ttl).deadline? = some deadline ∧
      deadline.toNanos = now.toNanos + ttl.toNanos := by
  cases ends : now.add? ttl with
  | none =>
    rw [after_eq_disabled_iff.mpr ends] at enabled
    cases enabled
  | some deadline =>
    rw [after_eq_upTo_iff.mpr ends]
    exact ⟨deadline, rfl, Instant.toNanos_of_add?_eq_some ends⟩

/-! ## What is left -/

/-- Up to the deadline, what is left is the time to it. -/
theorem exists_remaining_eq (has : expiration.deadline? = some deadline)
    (ahead : deadline.isBefore time = false) :
    deadline.since? time = some (expiration.remaining time) ∧
      ((expiration.remaining time).toNanos : Int) = deadline.toNanos - time.toNanos := by
  obtain ⟨left, between, exact⟩ := Instant.exists_since?_eq ahead
  cases expiration with
  | disabled => cases has
  | upTo held =>
    cases has
    rw [remaining_upTo, between]
    exact ⟨rfl, exact⟩

/-- After the deadline nothing is left. -/
theorem remaining_of_passed (has : expiration.deadline? = some deadline)
    (passed : deadline.isBefore time = true) : expiration.remaining time = .zero := by
  have nothing : deadline.since? time = none :=
    Instant.since?_eq_none_iff.mpr (Instant.isBefore_iff.mp passed)
  cases expiration with
  | disabled => cases has
  | upTo held =>
    cases has
    rw [remaining_upTo, nothing, Option.getD_none]

/-- What is left goes by as time does, until nothing is left. -/
theorem toNanos_remaining_later (expiration : Expiration) {elapsed : Span}
    (exact : (elapsed.toNanos : Int) = later.toNanos - time.toNanos) :
    (expiration.remaining later).toNanos =
      (expiration.remaining time).toNanos - elapsed.toNanos := by
  cases expiration with
  | disabled =>
    rw [remaining_disabled, remaining_disabled, Span.toNanos_zero, Nat.zero_sub]
  | upTo deadline =>
    have before := toNanos_remaining_upTo deadline time
    have afterwards := toNanos_remaining_upTo deadline later
    omega

/-- Caching that is refused once is refused from then on. -/
theorem refused_later (ordered : later.isBefore time = false)
    (refused : expiration.allowsCachingAt time = false) :
    expiration.allowsCachingAt later = false := by
  obtain ⟨elapsed, _, exact⟩ := Instant.exists_since?_eq ordered
  have left := toNanos_remaining_later expiration exact
  rw [← Bool.not_eq_true, allowsCachingAt_iff] at refused ⊢
  omega

end Expiration

/-- **Deadlines are exact.** A time from now is no deadline exactly if the whole seconds of their sum
go beyond the clock, and otherwise the deadline is their sum. What is left of any deadline is the
exact time to it, which is a span however far the two are apart, and nothing once it has passed.
Caching is allowed exactly while something is left; as time goes by, so does what is left, and
caching that was refused is refused from then on. -/
theorem deadlines_exact (now time : Instant) (ttl : Span) (expiration : Expiration) :
    ((Expiration.after now ttl).isDisabled = true ↔
      0x7FFFFFFFFFFFFFFF < (now.toNanos + ttl.toNanos) / 1000000000) ∧
    ((Expiration.after now ttl).isDisabled = false → ∃ deadline,
      (Expiration.after now ttl).deadline? = some deadline ∧
        deadline.toNanos = now.toNanos + ttl.toNanos) ∧
    (∀ deadline, expiration.deadline? = some deadline →
      (deadline.isBefore time = false →
        deadline.since? time = some (expiration.remaining time) ∧
          ((expiration.remaining time).toNanos : Int) = deadline.toNanos - time.toNanos) ∧
      (deadline.isBefore time = true → expiration.remaining time = .zero)) ∧
    (expiration.remaining time).toNanos ≤ Span.longest.toNanos ∧
    (expiration.allowsCachingAt time = true ↔
      Span.zero.isShorter (expiration.remaining time) = true) ∧
    ∀ later, later.isBefore time = false →
      (∃ elapsed, later.since? time = some elapsed ∧
        (elapsed.toNanos : Int) = later.toNanos - time.toNanos ∧
        (expiration.remaining later).toNanos =
          (expiration.remaining time).toNanos - elapsed.toNanos) ∧
      (expiration.allowsCachingAt time = false → expiration.allowsCachingAt later = false) := by
  refine ⟨Expiration.isDisabled_after_iff, Expiration.exists_deadline_of_after, ?_,
    Span.toNanos_le_longest _, ?_, ?_⟩
  · intro deadline has
    exact ⟨Expiration.exists_remaining_eq has, Expiration.remaining_of_passed has⟩
  · rw [Span.isShorter_iff, Span.toNanos_zero]
    exact Expiration.allowsCachingAt_iff
  · intro later ordered
    obtain ⟨elapsed, gone, exact⟩ := Instant.exists_since?_eq ordered
    exact ⟨⟨elapsed, gone, exact, Expiration.toNanos_remaining_later expiration exact⟩,
      Expiration.refused_later ordered⟩

/-- From the first instant, the longest span leads to the last one; a nanosecond later it leads off
the clock. The way back is the longest span as well, and at the last instant nothing is left. -/
theorem deadlines_exact_at_ends :
    let second : Instant := ⟨-0x8000000000000000, 1, by decide, by decide, by decide⟩
    (Expiration.after .first .longest).deadline? = some .last ∧
      (Expiration.after second .longest).isDisabled = true ∧
      (Expiration.upTo .last).remaining .first = .longest ∧
      ((Expiration.upTo .last).remaining .last).toNanos = 0 := by
  intro second
  obtain ⟨_, ends, left, _, _, goes⟩ :=
    deadlines_exact .first .first .longest (.upTo .last)
  obtain ⟨deadline, has, exact⟩ := ends (by decide)
  have sum : Instant.first.toNanos + (Span.longest.toNanos : Int) = Instant.last.toNanos := by decide
  have atLast : deadline = .last := Instant.toNanos_inj (exact.trans sum)
  have beyond := (deadlines_exact second .first .longest (.upTo .last)).1.mpr (by decide)
  have whole := ((left .last rfl).1 (by decide)).2
  have longest : Instant.last.toNanos - Instant.first.toNanos = (Span.longest.toNanos : Int) := by
    decide
  have allLeft : (Expiration.upTo .last).remaining .first = .longest :=
    Span.toNanos_inj (Int.ofNat_inj.mp (whole.trans longest))
  obtain ⟨⟨elapsed, _, gone, less⟩, _⟩ := goes .last (by decide)
  have allGone : elapsed.toNanos = Span.longest.toNanos := Int.ofNat_inj.mp (gone.trans longest)
  refine ⟨atLast ▸ has, beyond, allLeft, ?_⟩
  rw [less, allLeft, allGone, Nat.sub_self]

end UserFs
