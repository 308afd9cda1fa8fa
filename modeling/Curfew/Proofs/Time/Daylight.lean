import Curfew.Proofs.Time.Succession
import Curfew.Time.Zone

namespace Curfew

/-! The offset of local clocks from UTC, from the Sundays of the calendar on which US Eastern
clocks are changed. -/

namespace Weekday

theorem number_ofDay (day : Int) : ((ofDay day).number : Int) = (day + 3) % 7 := by
  rw [ofDay, number_ofNumber]
  exact Int.toNat_of_nonneg (by omega)

theorem eq_sun_iff (weekday : Weekday) : weekday = .sun ↔ (weekday.number : Int) = 6 := by
  cases weekday <;> decide

end Weekday

namespace Zone

/-- A day is the Sunday of a month that comes after so many others. -/
structure IsSunday (year : Int) (month earlier : Nat) (day : Int) : Prop where
  sunday : Weekday.ofDay day = .sun
  year : (Date.ofDay day).year = year
  month : (Date.ofDay day).month = month
  after : 7 * earlier < (Date.ofDay day).day
  within : (Date.ofDay day).day ≤ 7 * earlier + 7

/-- Daylight time begins at 2 o'clock standard time on the second Sunday of March, and ends at 2
o'clock daylight time on the first Sunday of November. -/
def DaylightTime (time : Int) : Prop :=
  ∃ year spring autumn, IsSunday year 3 1 spring ∧ IsSunday year 11 0 autumn ∧
    spring * 86400000 + 2 * 3600000 ≤ time - 5 * 3600000 ∧
      time - 4 * 3600000 < autumn * 86400000 + 2 * 3600000

/-- The milliseconds by which local clocks are ahead of UTC at a time. -/
inductive InForce : Zone → Int → Int → Prop
  | east (seconds time : Int) : InForce (.east seconds) time (seconds * 1000)
  | daylight {time : Int} (daylight : DaylightTime time) : InForce .usEastern time (-4 * 3600000)
  | standard {time : Int} (standard : ¬ DaylightTime time) : InForce .usEastern time (-5 * 3600000)

theorem sundayFrom_bounds (day : Int) : day ≤ sundayFrom day ∧ sundayFrom day ≤ day + 6 := by
  have number := (Weekday.ofDay day).number.isLt
  unfold sundayFrom
  omega

theorem sundayFrom_mod (day : Int) : (sundayFrom day + 3) % 7 = 6 := by
  have number := Weekday.number_ofDay day
  unfold sundayFrom
  omega

theorem toDay_day (year : Int) (month day : Nat) :
    Date.toDay ⟨year, month, day⟩ = Date.toDay ⟨year, month, 1⟩ + day - 1 := by
  simp only [Date.toDay]
  omega

theorem isSunday_iff {year day : Int} {month earlier : Nat} (known : 1 ≤ month ∧ month ≤ 12)
    (first : earlier ≤ 3) :
    IsSunday year month earlier day ↔
      day = sundayFrom (Date.toDay ⟨year, month, 1⟩) + 7 * earlier := by
  have bounds := sundayFrom_bounds (Date.toDay ⟨year, month, 1⟩)
  have sunday := sundayFrom_mod (Date.toDay ⟨year, month, 1⟩)
  constructor
  · intro ⟨isSunday, sameYear, sameMonth, after, within⟩
    have number := Weekday.number_ofDay day
    rw [(Weekday.eq_sun_iff _).mp isSunday] at number
    have date : Date.ofDay day = ⟨year, month, (Date.ofDay day).day⟩ :=
      Date.ext_fields sameYear sameMonth rfl
    have counted := Date.toDay_ofDay day
    rw [date, toDay_day] at counted
    -- both are Sundays of the same week of the month
    omega
  · intro counted
    obtain ⟨inMonth, week⟩ : ∃ inMonth : Nat,
        day = Date.toDay ⟨year, month, 1⟩ + (inMonth + 1 : Nat) - 1 :=
      ⟨(day - Date.toDay ⟨year, month, 1⟩).toNat, by omega⟩
    have length := Date.daysInMonth_bounds year month
    have valid : Date.isValid ⟨year, month, inMonth + 1⟩ = true :=
      Date.isValid_iff.mpr ⟨known, Nat.le_add_left ..,
        show inMonth + 1 ≤ Date.daysInMonth year month by omega⟩
    have date : Date.ofDay day = ⟨year, month, inMonth + 1⟩ := by
      rw [week, ← toDay_day, Date.ofDay_toDay valid]
    have number := Weekday.number_ofDay day
    refine ⟨(Weekday.eq_sun_iff _).mpr (by omega), ?_, ?_, ?_, ?_⟩
    all_goals simp only [date]
    all_goals omega

theorem isSunday_springDay (year : Int) : IsSunday year 3 1 (springDay year) :=
  (isSunday_iff (by decide) (by decide)).mpr rfl

theorem isSunday_autumnDay (year : Int) : IsSunday year 11 0 (autumnDay year) :=
  (isSunday_iff (by decide) (by decide)).mpr (Int.add_zero _).symm

theorem isDaylightTime_iff {time : Int} :
    isDaylightTime time = true ↔
      springDay (Date.ofDay (time / 86400000)).year * 86400000 + 7 * 3600000 ≤ time ∧
        time < autumnDay (Date.ofDay (time / 86400000)).year * 86400000 + 6 * 3600000 := by
  simp [isDaylightTime]

theorem year_of_between (year : Int) {time : Int} (spring : springDay year ≤ time / 86400000)
    (autumn : time / 86400000 ≤ autumnDay year) :
    (Date.ofDay (time / 86400000)).year = year := by
  have first := Date.year_le (Date.ofDay_le spring)
  have last := Date.year_le (Date.ofDay_le autumn)
  rw [(isSunday_springDay year).year] at first
  rw [(isSunday_autumnDay year).year] at last
  exact Int.le_antisymm last first

theorem isDaylightTime_iff_daylightTime {time : Int} :
    isDaylightTime time = true ↔ DaylightTime time := by
  rw [isDaylightTime_iff]
  constructor
  · intro ⟨spring, autumn⟩
    refine ⟨(Date.ofDay (time / 86400000)).year, _, _, isSunday_springDay _, isSunday_autumnDay _,
      ?_, ?_⟩
    · omega
    · omega
  · intro ⟨year, spring, autumn, isSpring, isAutumn, begun, notEnded⟩
    have springSame : spring = springDay year := (isSunday_iff (by decide) (by decide)).mp isSpring
    have autumnSame : autumn = autumnDay year := by
      rw [(isSunday_iff (by decide) (by decide)).mp isAutumn, autumnDay, Int.natCast_zero]
      omega
    subst springSame autumnSame
    rw [year_of_between year (by omega) (by omega)]
    omega

theorem inForce_iff {zone : Zone} {time ahead : Int} :
    zone.InForce time ahead ↔ zone.offset time = ahead := by
  constructor
  · intro inForce
    cases inForce with
    | east => rfl
    | daylight daylight =>
        rw [offset, if_pos (isDaylightTime_iff_daylightTime.mpr daylight)]
    | standard standard =>
        rw [offset, if_neg (mt isDaylightTime_iff_daylightTime.mp standard)]
  · intro same
    subst same
    cases zone with
    | east seconds => exact .east seconds time
    | usEastern =>
        simp only [offset]
        split
        case isTrue daylight => exact .daylight (isDaylightTime_iff_daylightTime.mp daylight)
        case isFalse standard =>
          exact .standard (mt isDaylightTime_iff_daylightTime.mpr standard)

end Zone

end Curfew
