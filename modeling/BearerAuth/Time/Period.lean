import BearerAuth.Time.Basic

/-! Unsigned lengths of time, whose whole seconds fit into 64 bits. -/

namespace BearerAuth

def nanosPerSecond : Nat := 1000000000

/-- An unsigned length of time. -/
structure Period where
  nanos : Nat
  inRange : nanos < 0x10000000000000000 * 1000000000
deriving DecidableEq, Repr

namespace Period

/-- The period of some nanoseconds, if it is in range. -/
def ofNanos? (nanos : Nat) : Option Period :=
  if h : nanos < 0x10000000000000000 * 1000000000 then some ⟨nanos, h⟩ else none

/-- The period of seconds and nanoseconds; the nanoseconds may exceed a second. -/
def ofParts? (seconds nanos : Nat) : Option Period := ofNanos? (seconds * nanosPerSecond + nanos)

def zero : Period := ⟨0, by decide⟩

def seconds (period : Period) : Nat := period.nanos / nanosPerSecond

def subsecond (period : Period) : Nat := period.nanos % nanosPerSecond

/-- The period as a signed span, if that is in range. -/
def toSpan? (period : Period) : Option Span := Span.ofNanos? period.nanos

theorem nanos_of_toSpan? {period : Period} {span : Span} (h : period.toSpan? = some span) :
    span.nanos = period.nanos := by
  unfold toSpan? Span.ofNanos? at h
  split at h
  · cases h
    rfl
  · contradiction

theorem seconds_lt (period : Period) : period.seconds < 0x10000000000000000 :=
  (Nat.div_lt_iff_lt_mul (by decide)).mpr period.inRange

theorem subsecond_lt (period : Period) : period.subsecond < nanosPerSecond :=
  Nat.mod_lt _ (by decide)

theorem ofParts?_parts (period : Period) :
    ofParts? period.seconds period.subsecond = some period := by
  have h : period.seconds * nanosPerSecond + period.subsecond = period.nanos :=
    Nat.div_add_mod' period.nanos nanosPerSecond
  rw [ofParts?, h]
  exact dif_pos period.inRange

end Period

end BearerAuth
