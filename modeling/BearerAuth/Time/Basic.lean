/-! Instants, spans of time and what clocks show, in nanoseconds. All have a range, so adding a
span to an instant can leave the range of instants; whole seconds are always the floor. -/

namespace BearerAuth

def second : Int := 1000000000

/-- A signed length of time. -/
structure Span where
  nanos : Int
  inRange : -(9223372036854775807 * 1000000) ≤ nanos ∧ nanos ≤ 9223372036854775807 * 1000000
deriving DecidableEq, Repr

namespace Span

/-- The span of some nanoseconds, if it is in range. -/
def ofNanos? (nanos : Int) : Option Span :=
  if h : -(9223372036854775807 * 1000000) ≤ nanos ∧ nanos ≤ 9223372036854775807 * 1000000 then
    some ⟨nanos, h⟩
  else none

def isPositive (span : Span) : Bool := 0 < span.nanos

/-- The whole seconds of a span, towards the past. -/
def floorSeconds (span : Span) : Int := span.nanos / second

def floorNanos (span : Span) : Int := span.nanos % second

/-- The whole seconds of a span and the nanoseconds left, both towards zero. -/
def parts (span : Span) : Int × Int := (span.nanos.tdiv second, span.nanos.tmod second)

end Span

/-- A point in time, counted from the start of 1970. -/
structure Instant where
  nanos : Int
  inRange : -8334601228800 * 1000000000 ≤ nanos ∧ nanos < 8210266876800 * 1000000000
deriving DecidableEq, Repr

namespace Instant

/-- The instant some nanoseconds after the start of 1970, if it is in range. -/
def ofNanos? (nanos : Int) : Option Instant :=
  if h : -8334601228800 * 1000000000 ≤ nanos ∧ nanos < 8210266876800 * 1000000000 then
    some ⟨nanos, h⟩
  else none

/-- The whole seconds since the start of 1970. -/
def seconds (instant : Instant) : Int := instant.nanos / second

/-- The nanoseconds since the last whole second. -/
def subsecond (instant : Instant) : Int := instant.nanos % second

/-- A span later, if that is in range. -/
def plus? (instant : Instant) (span : Span) : Option Instant := ofNanos? (instant.nanos + span.nanos)

theorem seconds_inRange (instant : Instant) :
    -8334601228800 ≤ instant.seconds ∧ instant.seconds < 8210266876800 := by
  have h := instant.inRange
  unfold seconds second
  omega

theorem nanos_of_plus? {instant later : Instant} {span : Span}
    (h : instant.plus? span = some later) : later.nanos = instant.nanos + span.nanos := by
  unfold plus? ofNanos? at h
  split at h
  · cases h
    rfl
  · contradiction

theorem seconds_of_plus? {instant later : Instant} {span : Span}
    (h : instant.plus? span = some later) :
    later.seconds = (instant.nanos + span.nanos) / second := by
  rw [seconds, nanos_of_plus? h]

/-- Later instants have no fewer seconds. -/
theorem seconds_mono {a b : Instant} (h : a.nanos ≤ b.nanos) : a.seconds ≤ b.seconds := by
  unfold seconds second
  omega

/-- A span that is not negative leads to no fewer seconds. -/
theorem seconds_le_of_plus? {instant later : Instant} {span : Span}
    (h : instant.plus? span = some later) (hspan : 0 ≤ span.nanos) :
    instant.seconds ≤ later.seconds := by
  refine seconds_mono ?_
  rw [nanos_of_plus? h]
  exact Int.le_add_of_nonneg_right hspan

end Instant

/-- What the clock shows: the time that has gone by since the start of 1970. A clock that is set to
an earlier time shows nothing at all, so an instant before 1970 can be the end of a lifetime but is
never the time of a request. -/
structure ClockReading where
  nanos : Nat
  inRange : nanos < 8210266876800 * 1000000000
deriving DecidableEq, Repr

namespace ClockReading

/-- The instant at which a clock shows a reading. -/
def instant (reading : ClockReading) : Instant :=
  ⟨reading.nanos, by have := reading.inRange; omega⟩

theorem seconds_nonneg (reading : ClockReading) : 0 ≤ reading.instant.seconds :=
  Int.ediv_nonneg (Int.natCast_nonneg reading.nanos) (by decide)

end ClockReading

end BearerAuth
