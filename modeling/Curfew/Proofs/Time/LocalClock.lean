import Curfew.Proofs.Time.ClockReading
import Curfew.Proofs.Time.Daylight

namespace Curfew

/-! What clocks show at an instant, in UTC and in a zone.  Date, weekday and time of day are those
of one count of milliseconds, whole days first. -/

theorem TimeOfDay.milliseconds_ofParts {seconds nanoseconds : Nat} (withinDay : seconds < 86400)
    (withinSecond : nanoseconds / 1000000 ≤ 999) :
    (ofParts seconds nanoseconds).milliseconds = seconds * 1000 + nanoseconds / 1000000 := by
  simp only [ofParts, clamped]
  omega

namespace Instant

variable {instant : Instant}

theorem civilMilliseconds_of_readable (readable : instant.Readable) :
    instant.civilMilliseconds = instant.milliseconds :=
  Int.min_eq_left readable

theorem fraction_le_iff (instant : Instant) :
    instant.nanoseconds / 1000000 ≤ 999 ↔ instant.Readable := by
  simp only [nanoseconds, toReading, Readable, latest]
  omega

theorem secondsOfDay_lt (instant : Instant) (ahead : Int) : instant.secondsOfDay ahead < 86400 := by
  unfold secondsOfDay
  omega

theorem secondsOfDay_fraction (readable : instant.Readable) (ahead : Int) :
    (instant.secondsOfDay ahead * 1000 + instant.nanoseconds / 1000000 : Int) =
      (instant.milliseconds + ahead * 1000) % 86400000 := by
  unfold Readable latest at readable
  simp only [secondsOfDay, wholeSeconds, nanoseconds, toReading]
  omega

end Instant

namespace Zone

variable {zone : Zone} {instant : Instant} {ahead : Int}

/-- Local clocks are so many milliseconds ahead of UTC at the instant, and what they show is within
the calendar. -/
structure Shows (zone : Zone) (instant : Instant) (ahead : Int) : Prop where
  readable : instant.Readable
  inForce : zone.InForce instant.milliseconds ahead
  inRange : Instant.IsTimestamp (instant.milliseconds + ahead)

theorem offset_seconds (zone : Zone) (time : Int) :
    zone.offset time / 1000 * 1000 = zone.offset time := by
  cases zone with
  | east seconds => exact congrArg (· * 1000) (Int.mul_ediv_cancel seconds (by decide))
  | usEastern =>
      simp only [offset]
      split <;> decide

namespace Shows

theorem offset_eq (shows : zone.Shows instant ahead) :
    zone.offset instant.civilMilliseconds = ahead := by
  rw [Instant.civilMilliseconds_of_readable shows.readable]
  exact inForce_iff.mp shows.inForce

theorem localMilliseconds_eq (shows : zone.Shows instant ahead) :
    zone.localMilliseconds instant = instant.milliseconds + ahead := by
  rw [localMilliseconds, shows.offset_eq, Instant.civilMilliseconds_of_readable shows.readable]

theorem localDay_eq (shows : zone.Shows instant ahead) :
    zone.localDay instant = (instant.milliseconds + ahead) / 86400000 := by
  rw [localDay, shows.localMilliseconds_eq]

theorem hasDate (shows : zone.Shows instant ahead) : zone.hasDate instant = true := by
  rw [Zone.hasDate, shows.localMilliseconds_eq]
  exact decide_eq_true shows.inRange

theorem localSeconds_fraction (shows : zone.Shows instant ahead) :
    (zone.localSeconds instant * 1000 + instant.nanoseconds / 1000000 : Int) =
      (instant.milliseconds + ahead) % 86400000 := by
  rw [localSeconds, Instant.secondsOfDay_fraction shows.readable, offset_seconds, shows.offset_eq]

theorem parts_le (shows : zone.Shows instant ahead) :
    instant.nanoseconds / 1000000 ≤ 999 ∧
      zone.localSeconds instant * 1000 + instant.nanoseconds / 1000000 ≤ 86399999 := by
  have parts := shows.localSeconds_fraction
  exact ⟨instant.fraction_le_iff.mpr shows.readable, by omega⟩

theorem localTime_parts (shows : zone.Shows instant ahead) :
    (zone.localTime instant).milliseconds =
      zone.localSeconds instant * 1000 + instant.nanoseconds / 1000000 :=
  TimeOfDay.milliseconds_ofParts (instant.secondsOfDay_lt _) shows.parts_le.1

theorem milliseconds_localTime (shows : zone.Shows instant ahead) :
    ((zone.localTime instant).milliseconds : Int) =
      (instant.milliseconds + ahead) % 86400000 := by
  rw [← shows.localSeconds_fraction, shows.localTime_parts]
  exact Int.natCast_add ..

theorem number_localWeekday (shows : zone.Shows instant ahead) :
    ((zone.localWeekday instant).number : Int) =
      ((instant.milliseconds + ahead) / 86400000 + 3) % 7 := by
  rw [localWeekday, Weekday.number_ofDay, shows.localDay_eq]

theorem localDate_eq (shows : zone.Shows instant ahead) :
    zone.localDate instant = Date.ofDay ((instant.milliseconds + ahead) / 86400000) := by
  rw [localDate, shows.localDay_eq]

end Shows

theorem shows_utc (readable : instant.Readable) : utc.Shows instant 0 where
  readable := readable
  inForce := .east 0 instant.milliseconds
  inRange := by
    rw [Int.add_zero]
    exact ⟨instant.notBefore, readable⟩

theorem localTime_utc (instant : Instant) : utc.localTime instant = instant.timeOfDay := rfl

theorem localWeekday_utc (instant : Instant) : utc.localWeekday instant = instant.weekday := by
  rw [localWeekday, localDay, localMilliseconds]
  exact congrArg (fun count => Weekday.ofDay (count / 86400000)) (Int.add_zero _)

/-- `localTime`, `localWeekday` and `localDate` show the instant moved by the offset in force.  The
time of day is what is left beyond whole days, and none of its parts is clamped; weekday and date
are those of the day reached by so many days from Thursday, 1 January 1970, forwards or backwards;
two dates are the same if and only if these numbers of days are.  In UTC the offset is zero. -/
theorem localClock_exact (shows : zone.Shows instant ahead) :
    ((zone.localTime instant).milliseconds : Int) =
      instant.milliseconds + ahead - (instant.milliseconds + ahead) / 86400000 * 86400000 ∧
    (instant.nanoseconds / 1000000 ≤ 999 ∧
      zone.localSeconds instant * 1000 + instant.nanoseconds / 1000000 ≤ 86399999 ∧
      (zone.localTime instant).milliseconds =
        zone.localSeconds instant * 1000 + instant.nanoseconds / 1000000) ∧
    ((zone.localWeekday instant).number : Int) =
      ((instant.milliseconds + ahead) / 86400000 + 3) % 7 ∧
    (zone.hasDate instant = true ∧
      ∀ date : Date, date.IsOf ((instant.milliseconds + ahead) / 86400000) ↔
        zone.localDate instant = date) ∧
    (∀ (otherZone : Zone) (other : Instant) (otherAhead : Int),
      otherZone.Shows other otherAhead →
        (zone.localDate instant = otherZone.localDate other ↔
          (instant.milliseconds + ahead) / 86400000 =
            (other.milliseconds + otherAhead) / 86400000)) ∧
    (instant.timeOfDay = utc.localTime instant ∧ instant.weekday = utc.localWeekday instant ∧
      utc.Shows instant 0) := by
  obtain ⟨withinSecond, withinDay⟩ := shows.parts_le
  refine ⟨?time, ⟨withinSecond, withinDay, shows.localTime_parts⟩, shows.number_localWeekday,
    ⟨shows.hasDate, fun date => ?date⟩, fun otherZone other otherAhead otherShows => ?same,
    (localTime_utc instant).symm, (localWeekday_utc instant).symm, shows_utc shows.readable⟩
  case time =>
    rw [shows.milliseconds_localTime]
    omega
  case date => rw [Date.isOf_iff, shows.localDate_eq]
  case same =>
    rw [shows.localDate_eq, otherShows.localDate_eq]
    exact Date.ofDay_injective.eq_iff

/-- The first landing on the moon: 20 July 1969, 20:17:40.25 in UTC. -/
def moonLanding : Instant := ⟨-14182939750, by decide, by decide⟩

/-- `localTime`, `localWeekday` and `localDate` of the landing in US Eastern time, four hours behind
UTC on that day. -/
theorem moonLanding_shown :
    usEastern.Shows moonLanding (-4 * 3600000) ∧
    ((usEastern.localTime moonLanding).milliseconds : Int) = 58660250 ∧
    ((usEastern.localWeekday moonLanding).number : Int) = 6 ∧
    usEastern.localDate moonLanding = ⟨1969, 7, 20⟩ := by
  have shows : usEastern.Shows moonLanding (-4 * 3600000) :=
    ⟨by decide, inForce_iff.mpr (by decide), by decide, by decide⟩
  obtain ⟨time, _, weekday, ⟨_, date⟩, _⟩ := localClock_exact shows
  refine ⟨shows, ?_, ?_, ?_⟩
  · rw [time]
    decide
  · rw [weekday]
    decide
  · rw [← date, Date.isOf_iff]
    decide

end Zone

end Curfew
