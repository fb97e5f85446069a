import UserFs.Cache.Expiration

/-!
# Cache policies

A policy fixes for how long every lookup lets the kernel cache: one time for attributes and
one for entries, each set and computed apart from the other.
-/

namespace UserFs

/-- The times for which lookups may be cached; none, or a zero one, disables caching. -/
structure CachePolicy where
  attributesTtl : Option Span
  entryTtl : Option Span
  deriving DecidableEq

namespace CachePolicy

/-- No caching at all. -/
def disabled : CachePolicy := ⟨none, none⟩

/-- The same time for attributes and entries. -/
def fixed (ttl : Span) : CachePolicy := ⟨some ttl, some ttl⟩

/-- Sets the time for attributes. -/
def withAttributesTtl (policy : CachePolicy) (ttl : Option Span) : CachePolicy :=
  { policy with attributesTtl := ttl }

/-- Sets the time for entries. -/
def withEntryTtl (policy : CachePolicy) (ttl : Option Span) : CachePolicy :=
  { policy with entryTtl := ttl }

/-- The deadline of what is handed out at `now` for the time `ttl`. -/
def expire (now : Instant) (ttl : Option Span) : Expiration :=
  match ttl with
  | some span => if span.isZero then .disabled else .after now span
  | none => .disabled

/-- How long a lookup made at `now` may be cached. -/
def validity (policy : CachePolicy) (now : Instant) : Validity where
  attributes := expire now policy.attributesTtl
  entry := expire now policy.entryTtl

end CachePolicy

end UserFs
