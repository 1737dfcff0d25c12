/-!
# Instants and durations

Points in time and lengths of time, both counted in nanoseconds.
-/

namespace Fleet

/-- Nanoseconds in a second. -/
def nanosPerSecond : Nat := 1000000000

/-- A length of time. -/
structure Duration where
  nanos : Nat
deriving DecidableEq, Repr, Inhabited

namespace Duration

/-- That many whole seconds. -/
def ofSeconds (seconds : Nat) : Duration := ⟨seconds * nanosPerSecond⟩

/-- That many milliseconds. -/
def ofMillis (millis : Nat) : Duration := ⟨millis * 1000000⟩

/-- The whole seconds in it, rounded down. -/
def wholeSeconds (d : Duration) : Nat := d.nanos / nanosPerSecond

/-- The least number of whole seconds that is not shorter. -/
def ceilSeconds (d : Duration) : Nat :=
  d.wholeSeconds + if d.nanos % nanosPerSecond = 0 then 0 else 1

end Duration

/-- A point in time: nanoseconds since the start of 1970, leap seconds not counted. One inside a leap
second shares its nanoseconds with the second that follows, and `leap` tells the two apart. -/
structure Instant where
  nanos : Int
  leap : Bool := false
deriving DecidableEq, Repr, Inhabited

namespace Instant

/-- The second of the day, as a clock that does not know of leap seconds shows it: it stands still
while a leap second passes. -/
def secondOfDay (t : Instant) : Int :=
  (t.nanos / nanosPerSecond - if t.leap then 1 else 0) % 86400

/-- The leap seconds to be counted between two instants. Each instant knows only of its own, and
counts it if the clock shows more at the later instant than inside the leap second of the earlier one,
or less than inside its own. -/
def leapSeconds (later earlier : Instant) : Int :=
  if earlier.leap ∧ earlier.secondOfDay < later.secondOfDay then 1
  else if later.leap ∧ later.secondOfDay < earlier.secondOfDay then -1
  else 0

/-- The time from `earlier` to `later`, nothing if `later` comes first. -/
def elapsed (later earlier : Instant) : Duration :=
  ⟨(later.nanos - earlier.nanos + later.leapSeconds earlier * nanosPerSecond).toNat⟩

/-- The instant so many whole seconds later; the rest of a leap second does not count as one. -/
def addSeconds (t : Instant) (seconds : Nat) : Instant :=
  if seconds = 0 then t
  else ⟨t.nanos + (seconds - if t.leap then 1 else 0) * nanosPerSecond, false⟩

end Instant

end Fleet
