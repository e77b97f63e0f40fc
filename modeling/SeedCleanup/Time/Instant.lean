import SeedCleanup.Time.Calendar

/-!
# Instants and spans

An `Instant` is a moment in universal time, to the nanosecond. A leap second has no second of its
own: it is the second billion of nanoseconds of the second before it. A `Span` is a signed length
of time.
-/

namespace SeedCleanup

/-! ## Spans -/

/-- A signed length of time. -/
structure Span where
  nanos : Int
deriving DecidableEq, Inhabited, Repr

namespace Span

/-- A span of whole seconds. -/
def ofSeconds (n : Int) : Span := ⟨n * 1000000000⟩

/-- The most hours that a span can have. -/
def maxHours : Nat := 2562047788015

/-- A span of whole hours, unless there are too many. -/
def ofHours? (hours : UInt64) : Option Span :=
  if hours.toNat ≤ maxHours then some (ofSeconds (hours.toNat * 3600)) else none

/-- The whole seconds of a span, cut toward zero. -/
def seconds (d : Span) : Int := d.nanos.tdiv 1000000000

/-- What is left of a span beside its whole seconds; it has the sign of the span. -/
def nanosBeyond (d : Span) : Int := d.nanos.tmod 1000000000

end Span

/-! ## Instants -/

/-- A moment: seconds since 1970 began, and nanoseconds, of which a leap second takes those from
one billion on. -/
structure Instant where
  second : Int
  nano : Nat
deriving DecidableEq, Inhabited, Repr

namespace Instant

instance : LE Instant := ⟨fun a b => a.second < b.second ∨ a.second = b.second ∧ a.nano ≤ b.nano⟩

instance (a b : Instant) : Decidable (a ≤ b) :=
  inferInstanceAs (Decidable (a.second < b.second ∨ a.second = b.second ∧ a.nano ≤ b.nano))

instance : Ord Instant := ⟨fun a b => (compare a.second b.second).then (compare a.nano b.nano)⟩

/-- The later of two instants. -/
def max (a b : Instant) : Instant := if a ≤ b then b else a

/-- The first second of the calendar. -/
def firstSecond : Int := Date.firstDay * 86400

/-- The last second of the calendar. -/
def lastSecond : Int := Date.lastDay * 86400 + 86399

/-- Whether an instant lies on a day of the calendar. -/
def inCalendar (t : Instant) : Bool :=
  decide (firstSecond ≤ t.second) && decide (t.second ≤ lastSecond)

/-- The instant a number of seconds after 1970 began; outside the calendar it is that beginning. -/
def ofEpochSeconds (n : Int) : Instant := if inCalendar ⟨n, 0⟩ then ⟨n, 0⟩ else ⟨0, 0⟩

/-- Whether an instant lies in a leap second. -/
def isLeap (t : Instant) : Bool := decide (1000000000 ≤ t.nano)

/-- Move by a span that leaves the second of `t`, when `t` is in no leap second. -/
def shift (second nano : Int) (d : Span) : Instant :=
  let second := second + d.seconds
  let nano := nano + d.nanosBeyond
  if nano < 0 then ⟨second - 1, (nano + 1000000000).toNat⟩
  else if 1000000000 ≤ nano then ⟨second + 1, (nano - 1000000000).toNat⟩
  else ⟨second, nano.toNat⟩

/-- The instant a span later, wherever it lies. From a leap second a span leads out forward as from
the second before it and backward as from the second after it. -/
def later (t : Instant) (d : Span) : Instant :=
  if t.isLeap then
    if 0 < d.seconds ∨ 0 < d.nanosBeyond ∧ 2000000000 ≤ t.nano + d.nanosBeyond then
      shift t.second (t.nano - 1000000000) d
    else if d.seconds < 0 then
      shift (t.second + 1) (t.nano - 1000000000) d
    else ⟨t.second, (t.nano + d.nanosBeyond).toNat⟩
  else shift t.second t.nano d

/-- The instant a span later, if it lies in the calendar. -/
def add? (t : Instant) (d : Span) : Option Instant :=
  let moved := t.later d
  if moved.inCalendar then some moved else none

/-- The second of the day. -/
def secondOfDay (t : Instant) : Int := t.second % 86400

/-- The span from an earlier instant to this one. A leap second counts when the times of day show
that it was passed. -/
def since (t earlier : Instant) : Span :=
  let passed : Int :=
    if earlier.secondOfDay < t.secondOfDay then (if earlier.isLeap then 1 else 0)
    else if t.secondOfDay < earlier.secondOfDay then (if t.isLeap then -1 else 0)
    else 0
  ⟨(t.second - earlier.second + passed) * 1000000000 + ((t.nano : Int) - earlier.nano)⟩

end Instant

end SeedCleanup
