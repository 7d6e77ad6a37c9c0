/-!
# Timing of requests

When each request in flight started. An entry expires after a fixed time; it is
then no longer shown, and can be evicted. Times are nanoseconds since the origin
of the clock, whose seconds are counted in 63 bits.
-/

namespace ClaExemption

/-- A time, in nanoseconds since the origin of the clock. -/
abbrev Instant := Nat

/-- The nanoseconds of a second. -/
def nanosPerSecond : Nat := 1000000000

/-- The nanoseconds of a millisecond. -/
def nanosPerMilli : Nat := 1000000

/-- The first time that the clock cannot show. -/
def clockLimit : Nat := 0x8000000000000000 * nanosPerSecond

/-- A request in flight. -/
structure InFlight where
  method : String
  start : Instant
  expires : Instant
deriving DecidableEq, Repr

/-- How long a request has been in flight. -/
structure Timing where
  requestId : String
  method : String
  /-- Whole milliseconds, modulo `2 ^ 64`. -/
  elapsedMs : Nat
deriving DecidableEq, Repr

/-- The requests in flight, by their ids. -/
structure Timings where
  /-- How long an entry is kept, in nanoseconds. -/
  lifetime : Nat
  entries : List (String × InFlight) := []
deriving DecidableEq, Repr

namespace Timings

/-- No requests in flight, and entries kept for so many seconds. -/
def ofSeconds (secs : Nat) : Timings := { lifetime := secs * nanosPerSecond }

/-- No requests in flight, and entries kept for so many milliseconds. -/
def ofMillis (ms : Nat) : Timings := { lifetime := ms * nanosPerMilli }

/-- The seconds that entries are kept for by default. -/
def defaultSeconds : Nat := 300

/-- How long entries are kept, in milliseconds. -/
def lifetimeMs (t : Timings) : Nat := t.lifetime / nanosPerMilli

/-- The number of requests in flight. -/
def size (t : Timings) : Nat := t.entries.length

/-- The entries without those of an id. -/
def without (t : Timings) (id : String) : Timings :=
  { t with entries := t.entries.filter (·.1 != id) }

/-- Records the start of a request, replacing an entry of the same id; none if the entry would
expire later than the clock can show. -/
def start? (t : Timings) (id method : String) (now : Instant) : Option Timings :=
  if now + t.lifetime < clockLimit then
    some { t with entries := (id, ⟨method, now, now + t.lifetime⟩) :: (t.without id).entries }
  else none

/-- The timing of a request, unless it is unknown or expired. -/
def get? (t : Timings) (id : String) (now : Instant) : Option Timing :=
  (t.entries.find? (·.1 == id)).bind fun (_, entry) =>
    if entry.expires ≤ now then none
    else some ⟨id, entry.method, (now - entry.start) / nanosPerMilli % UInt64.size⟩

/-- Forgets a request, and tells its timing. -/
def clear (t : Timings) (id : String) (now : Instant) : Option Timing × Timings :=
  (t.get? id now, t.without id)

/-- Forgets the expired entries, and tells their number. -/
def evict (t : Timings) (now : Instant) : Nat × Timings :=
  let kept := t.entries.filter fun e => decide (now < e.2.expires)
  (t.entries.length - kept.length, { t with entries := kept })

end Timings

end ClaExemption
