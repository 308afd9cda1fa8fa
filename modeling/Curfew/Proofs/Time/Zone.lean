import Curfew.Proofs.Time.Daylight

namespace Curfew

/-! Local dates go forward with time.  Local clocks do not when they are put back, but that is
an hour within one day. -/

namespace Zone

/-- Daylight time is followed by standard time from the first Sunday of November on. -/
theorem autumn_between {earlier later : Int} (notAfter : earlier ≤ later)
    (daylight : isDaylightTime earlier = true) (standard : isDaylightTime later = false) :
    ∃ day, earlier < day * 86400000 + 6 * 3600000 ∧ day * 86400000 + 6 * 3600000 ≤ later := by
  obtain ⟨spring, autumn⟩ := isDaylightTime_iff.mp daylight
  refine ⟨_, autumn, ?_⟩
  by_contra before
  have days : later / 86400000 ≤ autumnDay (Date.ofDay (earlier / 86400000)).year := by omega
  -- The later moment is in the year of the earlier one, so that its own autumn is the same.
  have year := year_of_between (Date.ofDay (earlier / 86400000)).year (by omega) days
  have still : isDaylightTime later = true := by
    rw [isDaylightTime_iff, year]
    omega
  rw [still] at standard
  contradiction

theorem localDay_le (zone : Zone) {earlier later : Instant}
    (notAfter : earlier.milliseconds ≤ later.milliseconds) :
    zone.localDay earlier ≤ zone.localDay later := by
  have civil : earlier.civilMilliseconds ≤ later.civilMilliseconds := by
    unfold Instant.civilMilliseconds
    omega
  unfold localDay localMilliseconds
  cases zone with
  | east seconds =>
      simp only [offset]
      omega
  | usEastern =>
      cases daylight : isDaylightTime earlier.civilMilliseconds <;>
        cases standard : isDaylightTime later.civilMilliseconds <;>
        simp only [offset, daylight, standard, if_true, Bool.false_eq_true, if_false]
      case true.false =>
        obtain ⟨day, before, after⟩ := autumn_between civil daylight standard
        omega
      all_goals omega

theorem localDate_le (zone : Zone) {earlier later : Instant}
    (notAfter : earlier.milliseconds ≤ later.milliseconds) :
    zone.localDate earlier ≤ zone.localDate later :=
  Date.ofDay_le (zone.localDay_le notAfter)

end Zone

end Curfew
