/-
Points in time, to the nanosecond. A leap second has no second of its own in
the count: it is the second before it with a nanosecond part of a thousand
million or more.
-/

namespace SigningOrder

/-- A point in time: whole seconds since 1 January 1970 UTC, and the
nanoseconds on top. -/
structure Instant where
  seconds : Int
  nanos : Nat
  deriving DecidableEq, Repr

namespace Instant

/-- Nanoseconds in a second; a nanosecond part from here on lies in a leap
second. -/
def nanosPerSecond : Nat := 1000000000

/-- Seconds in a day. -/
def secondsPerDay : Int := 86400

end Instant

end SigningOrder
