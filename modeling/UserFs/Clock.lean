/-!
# Spans and instants

A `Span` is a length of time and an `Instant` a point of the clock before or after the
epoch, both in seconds and nanoseconds. The seconds of a span are unsigned 64-bit numbers,
those of an instant signed ones, so moving an instant by a span can leave the clock
(`Instant.add?`), while the time between two instants always fits a span (`Instant.since?`).

`toNanos` is the view: the operations on parts, with their carry and borrow, are exact
addition (`toNanos_of_add?_eq_some`, `add?_eq_none_iff`), exact subtraction
(`toNanos_of_since?_eq_some`) and the order of the numbers (`Instant.isBefore_iff`).
-/

namespace UserFs

/-- A length of time, with less than `2 ^ 64` whole seconds. -/
structure Span where
  seconds : Nat
  nanos : Nat
  seconds_lt : seconds < 0x10000000000000000
  nanos_lt : nanos < 1000000000
  deriving DecidableEq

namespace Span

/-- The span of a number of seconds and nanoseconds, if it has that form. -/
def ofParts? (seconds nanos : Nat) : Option Span :=
  if seconds_lt : seconds < 0x10000000000000000 then
    if nanos_lt : nanos < 1000000000 then some ⟨seconds, nanos, seconds_lt, nanos_lt⟩ else none
  else none

/-- No time. -/
def zero : Span := ⟨0, 0, by omega, by omega⟩

/-- Whether the span is no time. -/
def isZero (span : Span) : Bool := span.seconds = 0 && span.nanos = 0

/-- The length in nanoseconds. -/
def toNanos (span : Span) : Nat := span.seconds * 1000000000 + span.nanos

/-- Spans are compared by their seconds first. -/
def isShorter (first second : Span) : Bool :=
  first.seconds < second.seconds ||
    (first.seconds = second.seconds && first.nanos < second.nanos)

/-- The shorter one of two spans. -/
def min (first second : Span) : Span := if second.isShorter first then second else first

/-- The whole seconds that cover the span: its seconds, and one more for a fraction. -/
def ceilSeconds (span : Span) : Nat := if span.nanos = 0 then span.seconds else span.seconds + 1

@[simp] theorem toNanos_zero : zero.toNanos = 0 := rfl

theorem toNanos_inj {first second : Span} (same : first.toNanos = second.toNanos) :
    first = second := by
  obtain ⟨firstSeconds, firstNanos, _, firstLt⟩ := first
  obtain ⟨secondSeconds, secondNanos, _, secondLt⟩ := second
  simp only [toNanos] at same
  have seconds : firstSeconds = secondSeconds := by omega
  have nanos : firstNanos = secondNanos := by omega
  subst seconds nanos
  rfl

theorem isZero_iff {span : Span} : span.isZero = true ↔ span.toNanos = 0 := by
  simp only [isZero, toNanos, Bool.and_eq_true, decide_eq_true_eq]
  omega

theorem isShorter_iff {first second : Span} :
    first.isShorter second = true ↔ first.toNanos < second.toNanos := by
  have firstLt := first.nanos_lt
  have secondLt := second.nanos_lt
  simp only [isShorter, toNanos, Bool.or_eq_true, Bool.and_eq_true, decide_eq_true_eq]
  omega

theorem toNanos_min (first second : Span) :
    (first.min second).toNanos = Nat.min first.toNanos second.toNanos := by
  unfold min
  split
  · next shorter =>
    rw [isShorter_iff] at shorter
    exact (Nat.min_eq_right (Nat.le_of_lt shorter)).symm
  · next longer =>
    rw [isShorter_iff] at longer
    exact (Nat.min_eq_left (Nat.not_lt.mp longer)).symm

end Span

/-- A point of the clock, counted from the epoch; the nanoseconds count forward from the
second, before the epoch too. The seconds are at least `-2 ^ 63` and less than `2 ^ 63`. -/
structure Instant where
  seconds : Int
  nanos : Nat
  le_seconds : -0x8000000000000000 ≤ seconds
  seconds_lt : seconds < 0x8000000000000000
  nanos_lt : nanos < 1000000000
  deriving DecidableEq

namespace Instant

/-- The instant of a number of seconds and nanoseconds, if the clock has it. -/
def ofParts? (seconds : Int) (nanos : Nat) : Option Instant :=
  if onClock : -0x8000000000000000 ≤ seconds ∧ seconds < 0x8000000000000000 ∧
      nanos < 1000000000 then
    some ⟨seconds, nanos, onClock.1, onClock.2.1, onClock.2.2⟩
  else none

/-- The epoch itself. -/
def epoch : Instant := ⟨0, 0, by omega, by omega, by omega⟩

/-- The nanoseconds since the epoch, negative before it. -/
def toNanos (instant : Instant) : Int := instant.seconds * 1000000000 + instant.nanos

/-- Instants are compared by their seconds first. -/
def isBefore (first second : Instant) : Bool :=
  first.seconds < second.seconds ||
    (first.seconds = second.seconds && first.nanos < second.nanos)

/-- The instant a span later, if the clock goes that far. Nanoseconds that make up a whole
second are carried over. -/
def add? (instant : Instant) (span : Span) : Option Instant :=
  let seconds := instant.seconds + span.seconds
  let nanos := instant.nanos + span.nanos
  if nanos < 1000000000 then ofParts? seconds nanos
  else ofParts? (seconds + 1) (nanos - 1000000000)

/-- The time from `earlier` to `later`, a second being borrowed where the nanoseconds do not
suffice; nothing if `later` comes first. The seconds of two instants are less than `2 ^ 64`
apart, so the time between them is a span. -/
def since? (later earlier : Instant) : Option Span :=
  if order : later.isBefore earlier then none
  else
    have ordered : earlier.seconds < later.seconds ∨
        earlier.seconds = later.seconds ∧ earlier.nanos ≤ later.nanos := by
      simp only [isBefore, Bool.or_eq_true, Bool.and_eq_true, decide_eq_true_eq] at order
      omega
    have lowest := earlier.le_seconds
    have highest := later.seconds_lt
    have laterLt := later.nanos_lt
    have earlierLt := earlier.nanos_lt
    if noBorrow : earlier.nanos ≤ later.nanos then
      some ⟨(later.seconds - earlier.seconds).toNat, later.nanos - earlier.nanos,
        by omega, by omega⟩
    else
      some ⟨(later.seconds - earlier.seconds - 1).toNat,
        later.nanos + 1000000000 - earlier.nanos, by omega, by omega⟩

theorem toNanos_inj {first second : Instant} (same : first.toNanos = second.toNanos) :
    first = second := by
  obtain ⟨firstSeconds, firstNanos, _, _, firstLt⟩ := first
  obtain ⟨secondSeconds, secondNanos, _, _, secondLt⟩ := second
  simp only [toNanos] at same
  have seconds : firstSeconds = secondSeconds := by omega
  have nanos : firstNanos = secondNanos := by omega
  subst seconds nanos
  rfl

theorem isBefore_iff {first second : Instant} :
    first.isBefore second = true ↔ first.toNanos < second.toNanos := by
  have firstLt := first.nanos_lt
  have secondLt := second.nanos_lt
  simp only [isBefore, toNanos, Bool.or_eq_true, Bool.and_eq_true, decide_eq_true_eq]
  omega

theorem isBefore_eq_false_iff {first second : Instant} :
    first.isBefore second = false ↔ second.toNanos ≤ first.toNanos := by
  rw [← Bool.not_eq_true, isBefore_iff, Int.not_lt]

theorem toNanos_of_ofParts?_eq_some {seconds : Int} {nanos : Nat} {instant : Instant}
    (found : ofParts? seconds nanos = some instant) :
    instant.toNanos = seconds * 1000000000 + nanos := by
  unfold ofParts? at found
  split at found
  · cases found; rfl
  · cases found

/-- An instant that is found a span later is exactly that span later. -/
theorem toNanos_of_add?_eq_some {instant later : Instant} {span : Span}
    (found : instant.add? span = some later) :
    later.toNanos = instant.toNanos + span.toNanos := by
  unfold add? at found
  simp only at found
  split at found
  · have exact := toNanos_of_ofParts?_eq_some found
    rw [exact]
    simp only [toNanos, Span.toNanos]
    omega
  · have exact := toNanos_of_ofParts?_eq_some found
    rw [exact]
    simp only [toNanos, Span.toNanos]
    omega

/-- The clock ends after the last nanosecond of second `2 ^ 63 - 1`. -/
theorem add?_eq_none_iff {instant : Instant} {span : Span} :
    instant.add? span = none ↔
      0x8000000000000000 * 1000000000 ≤ instant.toNanos + span.toNanos := by
  have lowest := instant.le_seconds
  have instantLt := instant.nanos_lt
  have spanLt := span.nanos_lt
  unfold add? ofParts?
  simp only [toNanos, Span.toNanos]
  split
  · split
    · simp only [reduceCtorEq, false_iff]; omega
    · simp only [true_iff]; omega
  · split
    · simp only [reduceCtorEq, false_iff]; omega
    · simp only [true_iff]; omega

theorem since?_eq_none_iff {later earlier : Instant} :
    later.since? earlier = none ↔ later.toNanos < earlier.toNanos := by
  rw [← isBefore_iff]
  unfold since?
  split
  · next order => simp [order]
  · next order =>
    simp only [order, Bool.false_eq_true, iff_false]
    split <;> simp

/-- The time between two instants is their exact difference. -/
theorem toNanos_of_since?_eq_some {later earlier : Instant} {span : Span}
    (found : later.since? earlier = some span) :
    (span.toNanos : Int) = later.toNanos - earlier.toNanos := by
  have ordered : earlier.toNanos ≤ later.toNanos := by
    apply Int.not_lt.mp
    rw [← since?_eq_none_iff, found]
    simp
  have laterLt := later.nanos_lt
  have earlierLt := earlier.nanos_lt
  simp only [toNanos] at ordered
  unfold since? at found
  split at found
  · cases found
  · simp only at found
    split at found
    · cases found
      simp only [toNanos, Span.toNanos]
      omega
    · cases found
      simp only [toNanos, Span.toNanos]
      omega

end Instant

end UserFs
