import Curfew.Time.Calendar
import Curfew.Time.ClockReading
import Curfew.Time.Duration
import Curfew.Time.TimeOfDay
import Curfew.Time.Weekday

namespace Curfew

/-! Points in time, in milliseconds since the start of 1970 in UTC.  The range is that of the years
-262143 to 262142.  Its very last second may be a leap second: that second counts on past the end of
the range, can be held, but is not accepted when it is read back. -/

/-- A count of whole milliseconds.  In the leap second at the end of the range a reading also keeps
what is below a millisecond; that part is dropped here, and instants that differ in nothing else are
equal. -/
structure Instant where
  milliseconds : Int
  notBefore : -8334601228800000 ≤ milliseconds
  notAfter : milliseconds ≤ 8210266876799999 + 1000
deriving DecidableEq, Repr

structure InstantOutOfRange where
  milliseconds : Int
deriving DecidableEq, Repr

def InstantOutOfRange.message (error : InstantOutOfRange) : String :=
  s!"Timestamp {Decimal.intText error.milliseconds} is outside the representable range of " ++
        s!"millisecond UTC timestamps"

namespace Instant

def earliest : Int := -8334601228800000
def latest : Int := 8210266876799999

def ofMilliseconds (milliseconds : Int) : Except InstantOutOfRange Instant :=
  if inRange : -8334601228800000 ≤ milliseconds ∧ milliseconds ≤ 8210266876799999 then
    .ok ⟨milliseconds, inRange.1, by omega⟩
  else .error ⟨milliseconds⟩

def epoch : Instant := ⟨0, by decide, by decide⟩

instance : Inhabited Instant := ⟨epoch⟩

/-- The instant of a reading, which is truncated to milliseconds first.  Where `truncated` leaves the
reading as it is, in the leap second at the end of the range, only its milliseconds are counted. -/
def ofReading (reading : ClockReading) : Instant where
  milliseconds := reading.truncated.milliseconds
  notBefore := by
    have early := reading.truncated.notBefore
    unfold ClockReading.milliseconds
    omega
  notAfter := by
    have late := reading.truncated.notAfter
    have fraction := reading.truncated.fraction
    unfold ClockReading.milliseconds
    omega

def ofSeconds? (seconds : Int) (nanoseconds : Nat) : Option Instant :=
  (ClockReading.ofParts? seconds nanoseconds).map ofReading

/-- What a clock shows at an instant.  The last second of the range is the only one that is
shown longer than a second. -/
def toReading (instant : Instant) : ClockReading where
  seconds := min (instant.milliseconds / 1000) 8210266876799
  nanoseconds :=
    (instant.milliseconds - min (instant.milliseconds / 1000) 8210266876799 * 1000).toNat * 1000000
  notBefore := by
    have early := instant.notBefore
    omega
  notAfter := Int.min_le_right ..
  fraction := by
    have late := instant.notAfter
    omega

def wholeSeconds (instant : Instant) : Int := instant.toReading.seconds

def nanoseconds (instant : Instant) : Nat := instant.toReading.nanoseconds

/-- What a clock that knows no leap second shows. -/
def civilMilliseconds (instant : Instant) : Int := min instant.milliseconds latest

/-- The day in UTC, counted from 1 January 1970. -/
def day (instant : Instant) : Int := instant.civilMilliseconds / 86400000

/-- The whole seconds since midnight on a clock that is so many seconds ahead of UTC. -/
def secondsOfDay (instant : Instant) (ahead : Int) : Nat :=
  ((instant.wholeSeconds + ahead) % 86400).toNat

def timeOfDay (instant : Instant) : TimeOfDay :=
  .ofParts (instant.secondsOfDay 0) instant.nanoseconds

def weekday (instant : Instant) : Weekday := Weekday.ofDay instant.day

/-- The span from one instant to a later one, zero if the other is not later. -/
def till (instant later : Instant) : Duration :=
  Duration.clamped (later.milliseconds - instant.milliseconds).toNat

def since (instant earlier : Instant) : Duration :=
  Duration.clamped (instant.milliseconds - earlier.milliseconds).toNat

def plus? (instant : Instant) (span : Duration) : Option Instant :=
  (ofMilliseconds (instant.milliseconds + span.milliseconds)).toOption

def minus? (instant : Instant) (span : Duration) : Option Instant :=
  (ofMilliseconds (instant.milliseconds - span.milliseconds)).toOption

/-- The date and time in UTC to the millisecond; a leap second is second 60. -/
def text (instant : Instant) : String :=
  let time := instant.timeOfDay
  let leap := instant.milliseconds - instant.civilMilliseconds
  let seconds := if leap > 0 then 60 else time.milliseconds % 60000 / 1000
  let fraction := if leap > 0 then (leap - 1).toNat else time.milliseconds % 1000
  let date := (Date.ofDay instant.day).text
  let second := String.ofList (Decimal.padded 2 seconds)
  let millisecond := String.ofList (Decimal.padded 3 fraction)
  s!"{date}T{time.text}:{second}.{millisecond}Z"

end Instant

end Curfew
