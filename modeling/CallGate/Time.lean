/-! Points in time and spans between them, in whole nanoseconds. -/

namespace CallGate

/-- A span of time. -/
structure Duration where
  nanoseconds : Nat
  deriving DecidableEq, Repr, Inhabited

namespace Duration

/-- A span of so many milliseconds. -/
def ofMilliseconds (count : UInt64) : Duration := ⟨count.toNat * 1000000⟩

/-- A span of so many seconds. -/
def ofSeconds (count : UInt64) : Duration := ⟨count.toNat * 1000000000⟩

/-- The whole milliseconds of a span. -/
def milliseconds (span : Duration) : Nat := span.nanoseconds / 1000000

/-- The whole seconds of a span. -/
def seconds (span : Duration) : Nat := span.nanoseconds / 1000000000

/-- The longest wait one system call can be asked for, in milliseconds. -/
def longestWait : Nat := 2147483647

/-- The milliseconds to ask a system wait for.

Whole microseconds are rounded up to milliseconds, so a short remainder does not spin. -/
def waitMilliseconds (span : Duration) : Nat :=
  min ((span.nanoseconds / 1000 + 999) / 1000) longestWait

end Duration

/-- A reading of a clock that never goes back, counted from its start. -/
structure Instant where
  nanoseconds : Nat
  deriving DecidableEq, Repr, Inhabited

namespace Instant

/-- The clock counts seconds in a signed 64-bit word, so instants end here. -/
def limit : Nat := Nat.pow 2 63 * 1000000000

/-- The instant a span later, whether the clock can show it or not. -/
def after (instant : Instant) (span : Duration) : Instant :=
  ⟨instant.nanoseconds + span.nanoseconds⟩

/-- The instant a span later, unless it lies past the range of the clock. -/
def add? (instant : Instant) (span : Duration) : Option Instant :=
  let nanoseconds := instant.nanoseconds + span.nanoseconds
  if nanoseconds < limit then some ⟨nanoseconds⟩ else none

/-- The span since an earlier instant, and zero since a later one. -/
def since (instant earlier : Instant) : Duration :=
  ⟨instant.nanoseconds - earlier.nanoseconds⟩

/-- The earlier of two instants. -/
def earliest (left right : Instant) : Instant :=
  if right.nanoseconds < left.nanoseconds then right else left

end Instant

end CallGate
