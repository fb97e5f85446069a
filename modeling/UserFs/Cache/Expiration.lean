import UserFs.Clock

/-!
# Until when cached data may be trusted

The kernel caches the attributes of an inode and, apart from them, the step from a name in a
directory to an inode. Each gets a deadline of its own, before which the data is promised not
to change. Not caching at all is a state of its own and not an early deadline, so a deadline
at the epoch means what it says.

Whether cached data may be served and how much time is left are computed apart, and agree:
data may be served exactly while time is left (`allowsCachingAt_iff`).
-/

namespace UserFs

/-- A deadline for cached data. -/
inductive Expiration where
  /-- Nothing may be cached. -/
  | disabled
  /-- Cached data may be served before the deadline. -/
  | upTo (deadline : Instant)
  deriving DecidableEq

namespace Expiration

/-- A deadline `ttl` after `now`, or no caching if the clock does not go that far. -/
def after (now : Instant) (ttl : Span) : Expiration :=
  match now.add? ttl with
  | some deadline => .upTo deadline
  | none => .disabled

/-- Whether nothing may be cached. -/
def isDisabled : Expiration → Bool
  | .disabled => true
  | .upTo _ => false

/-- The deadline, if there is one. -/
def deadline? : Expiration → Option Instant
  | .disabled => none
  | .upTo deadline => some deadline

/-- Whether cached data may still be served at `now`. -/
def allowsCachingAt (expiration : Expiration) (now : Instant) : Bool :=
  match expiration with
  | .disabled => false
  | .upTo deadline => now.isBefore deadline

/-- The time left before the deadline: none once it has passed, nor without one. -/
def remaining (expiration : Expiration) (now : Instant) : Span :=
  match expiration with
  | .disabled => .zero
  | .upTo deadline => (deadline.since? now).getD .zero

theorem allowsCachingAt_disabled (now : Instant) : disabled.allowsCachingAt now = false := rfl

theorem remaining_disabled (now : Instant) : disabled.remaining now = .zero := rfl

theorem allowsCachingAt_upTo (deadline now : Instant) :
    (upTo deadline).allowsCachingAt now = now.isBefore deadline := rfl

theorem remaining_upTo (deadline now : Instant) :
    (upTo deadline).remaining now = (deadline.since? now).getD .zero := rfl

/-- The time left is what lies between now and the deadline, cut off at zero. -/
theorem toNanos_remaining_upTo (deadline now : Instant) :
    (((upTo deadline).remaining now).toNanos : Int) = max (deadline.toNanos - now.toNanos) 0 := by
  rw [remaining_upTo]
  cases left : deadline.since? now with
  | none =>
    have passed := Instant.since?_eq_none_iff.mp left
    rw [Option.getD_none, Span.toNanos_zero]
    omega
  | some span =>
    have exact := Instant.toNanos_of_since?_eq_some left
    rw [Option.getD_some]
    omega

/-- Cached data may be served exactly while there is time left. -/
theorem allowsCachingAt_iff {expiration : Expiration} {now : Instant} :
    expiration.allowsCachingAt now = true ↔ 0 < (expiration.remaining now).toNanos := by
  cases expiration with
  | disabled =>
    rw [allowsCachingAt_disabled, remaining_disabled, Span.toNanos_zero]
    decide
  | upTo deadline =>
    have left := toNanos_remaining_upTo deadline now
    rw [allowsCachingAt_upTo, Instant.isBefore_iff]
    omega

theorem after_eq_upTo_iff {now deadline : Instant} {ttl : Span} :
    after now ttl = .upTo deadline ↔ now.add? ttl = some deadline := by
  unfold after
  split <;> simp_all

theorem after_eq_disabled_iff {now : Instant} {ttl : Span} :
    after now ttl = .disabled ↔ now.add? ttl = none := by
  unfold after
  split <;> simp_all

end Expiration

/-- How long what a lookup returns may be cached: the attributes, and the entry of the name. -/
structure Validity where
  attributes : Expiration
  entry : Expiration
  deriving DecidableEq

namespace Validity

/-- Whether the attributes may still be served from the cache at `now`. -/
def attributesValidAt (validity : Validity) (now : Instant) : Bool :=
  validity.attributes.allowsCachingAt now

/-- Whether the name may still be resolved from the cache at `now`. -/
def entryValidAt (validity : Validity) (now : Instant) : Bool :=
  validity.entry.allowsCachingAt now

/-- The time at `now` for which both may be cached. One that is disabled leaves none. -/
def common (validity : Validity) (now : Instant) : Span :=
  (validity.attributes.remaining now).min (validity.entry.remaining now)

end Validity

end UserFs
