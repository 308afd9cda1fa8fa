import Curfew.Time.Calendar
import Mathlib.Data.Int.Order.Basic

namespace Curfew

/-! The order of dates, and the year from March to February that a day falls into. -/

namespace Date

theorem ext_fields {left right : Date} (year : left.year = right.year)
    (month : left.month = right.month) (day : left.day = right.day) : left = right := by
  cases left
  cases right
  simp_all

/-- The order of the calendar. -/
instance : PartialOrder Date where
  le left right := left.year < right.year ∨ left.year = right.year ∧
    (left.month < right.month ∨ left.month = right.month ∧ left.day ≤ right.day)
  le_refl _ := .inr ⟨rfl, .inr ⟨rfl, Nat.le_refl _⟩⟩
  le_trans _ _ _ first second := by omega
  le_antisymm _ _ first second := ext_fields (by omega) (by omega) (by omega)

theorem le_def {left right : Date} :
    left ≤ right ↔ left.year < right.year ∨ left.year = right.year ∧
      (left.month < right.month ∨ left.month = right.month ∧ left.day ≤ right.day) :=
  Iff.rfl

theorem year_le {left right : Date} (notAfter : left ≤ right) : left.year ≤ right.year := by
  rw [le_def] at notAfter
  omega

/-- Days from 1 March of year 0 to 1 March of a year. -/
def daysBeforeYear (marchYear : Int) : Int :=
  365 * marchYear + marchYear / 4 - marchYear / 100 + marchYear / 400

/-- The date so many days after 1 March of a year, before the next 1 March. -/
def ofMarch (marchYear : Int) (inYear : Nat) : Date :=
  let marchMonth := (5 * inYear + 2) / 153
  { year := if marchMonth < 10 then marchYear else marchYear + 1
    month := if marchMonth < 10 then marchMonth + 3 else marchMonth - 9
    day := inYear - daysBeforeMonth marchMonth + 1 }

theorem daysBeforeYear_le {earlier later : Int} (notAfter : earlier ≤ later) :
    daysBeforeYear earlier ≤ daysBeforeYear later := by
  unfold daysBeforeYear
  omega

theorem daysBeforeYear_parts {cycle : Int} {century span single : Nat} (centuries : century ≤ 3)
    (spans : span ≤ 24) (singles : single ≤ 3) :
    daysBeforeYear (400 * cycle + 100 * (century : Int) + 4 * (span : Int) + (single : Int)) =
      146097 * cycle + 36524 * (century : Int) + 1461 * (span : Int) + 365 * (single : Int) := by
  unfold daysBeforeYear
  omega

theorem daysBeforeYear_next {cycle : Int} {century span single : Nat} (centuries : century ≤ 3)
    (spans : span ≤ 24) (singles : single ≤ 3) :
    daysBeforeYear (400 * cycle + 100 * (century : Int) + 4 * (span : Int) + (single : Int) + 1) =
      146097 * cycle + 36524 * (century : Int) + 1461 * (span : Int) + 365 * (single : Int) + 365 +
        if single = 3 ∧ (span = 24 → century = 3) then 1 else 0 := by
  unfold daysBeforeYear
  split <;> omega

theorem exists_ofMarch (day : Int) :
    ∃ (marchYear : Int) (inYear : Nat), ofDay day = ofMarch marchYear inYear ∧
      day + epochOffset = daysBeforeYear marchYear + inYear ∧
      day + epochOffset < daysBeforeYear (marchYear + 1) := by
  generalize shift : day + epochOffset = shifted
  let inCycle := (shifted % 146097).toNat
  let century := min 3 (inCycle / 36524)
  let inCentury := inCycle - 36524 * century
  let span := inCentury / 1461
  let inSpan := inCentury % 1461
  let single := min 3 (inSpan / 365)
  let inYear := inSpan - 365 * single
  have centuries : century ≤ 3 := by omega
  have spans : span ≤ 24 := by omega
  have singles : single ≤ 3 := by omega
  have whole : shifted = 146097 * (shifted / 146097) + 36524 * (century : Int) +
      1461 * (span : Int) + 365 * (single : Int) + (inYear : Int) := by
    omega
  refine ⟨400 * (shifted / 146097) + 100 * (century : Int) + 4 * (span : Int) + (single : Int),
    inYear, ?_, ?_, ?_⟩
  · subst shift
    rfl
  · rw [daysBeforeYear_parts centuries spans singles]
    exact whole
  · rw [daysBeforeYear_next centuries spans singles]
    split <;> omega

/-- The year from March on that a day falls into is the only one that it can fall into. -/
theorem ofDay_eq_ofMarch {day marchYear : Int} {inYear : Nat}
    (days : day + epochOffset = daysBeforeYear marchYear + inYear)
    (inside : day + epochOffset < daysBeforeYear (marchYear + 1)) :
    ofDay day = ofMarch marchYear inYear := by
  obtain ⟨found, foundDay, date, foundDays, foundInside⟩ := exists_ofMarch day
  have same : found = marchYear := by
    rcases Int.lt_trichotomy found marchYear with before | same | after
    · have := daysBeforeYear_le (show found + 1 ≤ marchYear by omega)
      omega
    · exact same
    · have := daysBeforeYear_le (show marchYear + 1 ≤ found by omega)
      omega
  subst same
  have sameDay : foundDay = inYear := by omega
  rw [date, sameDay]

end Date

end Curfew
