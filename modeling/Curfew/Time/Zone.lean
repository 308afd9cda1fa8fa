import Curfew.Time.Instant

namespace Curfew

/-! Local time. -/

/-- A zone at a fixed distance east of UTC, or US Eastern time: five hours behind UTC,
and four from the second Sunday of March, 2 o'clock, to the first Sunday of November,
2 o'clock, each on the clock that is being put away. -/
inductive Zone where
  | east (seconds : Int)
  | usEastern
deriving DecidableEq, Repr

namespace Zone

/-- A zone whose distance is in whole minutes. -/
def fixed (minutesEast : Int) : Zone := .east (60 * minutesEast)

def utc : Zone := .fixed 0

/-- The first Sunday on or after a day. -/
def sundayFrom (day : Int) : Int :=
  day + (6 - ((Weekday.ofDay day).number : Nat) : Int)

/-- The day on which daylight time begins. -/
def springDay (year : Int) : Int := sundayFrom (Date.toDay ⟨year, 3, 1⟩) + 7

/-- The day on which daylight time ends. -/
def autumnDay (year : Int) : Int := sundayFrom (Date.toDay ⟨year, 11, 1⟩)

def isDaylightTime (utcMilliseconds : Int) : Bool :=
  let year := (Date.ofDay (utcMilliseconds / 86400000)).year
  springDay year * 86400000 + 7 * 3600000 ≤ utcMilliseconds &&
    utcMilliseconds < autumnDay year * 86400000 + 6 * 3600000

/-- Milliseconds by which local clocks are ahead of UTC. -/
def offset (zone : Zone) (utcMilliseconds : Int) : Int :=
  match zone with
  | .east seconds => seconds * 1000
  | .usEastern => if isDaylightTime utcMilliseconds then -4 * 3600000 else -5 * 3600000

def localMilliseconds (zone : Zone) (instant : Instant) : Int :=
  instant.civilMilliseconds + zone.offset instant.civilMilliseconds

def localDay (zone : Zone) (instant : Instant) : Int :=
  zone.localMilliseconds instant / 86400000

def localDate (zone : Zone) (instant : Instant) : Date :=
  Date.ofDay (zone.localDay instant)

/-- Whether there is a local date to be looked up.  The calendar ends with the range of instants,
and a local clock leaves it earlier at the one end than the other clocks do. -/
def hasDate (zone : Zone) (instant : Instant) : Bool :=
  decide (Instant.earliest ≤ zone.localMilliseconds instant ∧
    zone.localMilliseconds instant ≤ Instant.latest)

/-- The local date if the calendar has it. -/
def localDate? (zone : Zone) (instant : Instant) : Option Date :=
  if zone.hasDate instant then some (zone.localDate instant) else none

def localWeekday (zone : Zone) (instant : Instant) : Weekday :=
  Weekday.ofDay (zone.localDay instant)

/-- The whole seconds since midnight on local clocks.  Zones differ by whole seconds. -/
def localSeconds (zone : Zone) (instant : Instant) : Nat :=
  instant.secondsOfDay (zone.offset instant.civilMilliseconds / 1000)

def localTime (zone : Zone) (instant : Instant) : TimeOfDay :=
  .ofParts (zone.localSeconds instant) instant.nanoseconds

/-- The offset in force when local clocks show the given time, if the time is shown
once.  The moment at which the clocks are put forward still counts on the old clock,
and the moment up to which they are put back as shown twice. -/
def offsetAtLocal? (zone : Zone) (localMilliseconds : Int) : Option Int :=
  match zone with
  | .east seconds => some (seconds * 1000)
  | .usEastern =>
      let year := (Date.ofDay (localMilliseconds / 86400000)).year
      let spring := springDay year * 86400000 + 2 * 3600000
      let autumn := autumnDay year * 86400000 + 2 * 3600000
      if localMilliseconds ≤ spring then some (-5 * 3600000)
      else if localMilliseconds < spring + 3600000 then none
      else if localMilliseconds < autumn - 3600000 then some (-4 * 3600000)
      else if localMilliseconds ≤ autumn then none
      else some (-5 * 3600000)

end Zone

end Curfew
