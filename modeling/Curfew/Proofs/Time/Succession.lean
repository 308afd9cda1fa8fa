import Curfew.Proofs.Time.Calendar
import Mathlib.Logic.Function.Iterate
import Mathlib.Order.Monotone.Basic

namespace Curfew.Date

/-! The calendar told from one day to the next: a month has its days, after the last one of them
the next month begins, and after the last month the next year.  The days that are counted from
1 January 1970 have these dates, before it as well; dates go forward with the days, and no two
days have the same. -/

/-- The date of the day after. -/
def next (date : Date) : Date :=
  if date.day < daysInMonth date.year date.month then ⟨date.year, date.month, date.day + 1⟩
  else if date.month < 12 then ⟨date.year, date.month + 1, 1⟩
  else ⟨date.year + 1, 1, 1⟩

def epoch : Date := ⟨1970, 1, 1⟩

/-- The date of a day is reached from 1 January 1970 in so many days, or 1 January 1970 from it. -/
def IsOf (date : Date) (day : Int) : Prop :=
  date.isValid = true ∧ (0 ≤ day → next^[day.toNat] epoch = date) ∧
    (day ≤ 0 → next^[(-day).toNat] date = epoch)

/-- The month with the given number from March, which is number 0. -/
def monthOfMarch (marchMonth : Nat) : Nat :=
  if marchMonth < 10 then marchMonth + 3 else marchMonth - 9

/-- January and February belong to the calendar year after. -/
def yearOfMarch (marchYear : Int) (marchMonth : Nat) : Int :=
  if marchMonth < 10 then marchYear else marchYear + 1

/-- A day of a month.  The first one is day 0. -/
def ofMonth (marchYear : Int) (marchMonth inMonth : Nat) : Date :=
  ⟨yearOfMarch marchYear marchMonth, monthOfMarch marchMonth, inMonth + 1⟩

def monthLength (marchYear : Int) (marchMonth : Nat) : Nat :=
  daysInMonth (yearOfMarch marchYear marchMonth) (monthOfMarch marchMonth)

variable {marchYear : Int} {marchMonth inMonth : Nat}

theorem isLeapYear_iff (year : Int) :
    isLeapYear year = true ↔ year % 4 = 0 ∧ (year % 100 ≠ 0 ∨ year % 400 = 0) := by
  simp [isLeapYear]

theorem daysInMonth_bounds (year : Int) (month : Nat) :
    28 ≤ daysInMonth year month ∧ daysInMonth year month ≤ 31 := by
  unfold daysInMonth
  split
  · split <;> omega
  · split <;> omega

theorem daysInMonth_congr {month : Nat} (notFebruary : month ≠ 2) (year other : Int) :
    daysInMonth year month = daysInMonth other month := by
  simp only [daysInMonth, if_neg notFebruary]

theorem daysBeforeMonth_succ (marchYear : Int) (beforeFebruary : marchMonth < 11) :
    daysBeforeMonth (marchMonth + 1) =
      daysBeforeMonth marchMonth + monthLength marchYear marchMonth := by
  have months : ∀ marchMonth < 11, monthOfMarch marchMonth ≠ 2 ∧
      daysBeforeMonth (marchMonth + 1) =
        daysBeforeMonth marchMonth + daysInMonth 1970 (monthOfMarch marchMonth) := by
    decide
  obtain ⟨notFebruary, days⟩ := months marchMonth beforeFebruary
  rw [days, monthLength, daysInMonth_congr notFebruary]

theorem february_length (marchYear : Int) :
    monthLength marchYear 11 = if isLeapYear (marchYear + 1) then 29 else 28 :=
  rfl

theorem daysBeforeYear_succ (marchYear : Int) :
    daysBeforeYear (marchYear + 1) =
      daysBeforeYear marchYear + daysBeforeMonth 11 + monthLength marchYear 11 := by
  have before : daysBeforeMonth 11 = 337 := rfl
  rw [february_length, before]
  unfold daysBeforeYear
  split
  · rename_i leap
    have := (isLeapYear_iff _).mp leap
    omega
  · rename_i common
    rw [isLeapYear_iff] at common
    omega

theorem ofMarch_eq_ofMonth
    (inside : daysBeforeMonth marchMonth + inMonth < daysBeforeMonth (marchMonth + 1)) :
    ofMarch marchYear (daysBeforeMonth marchMonth + inMonth) =
      ofMonth marchYear marchMonth inMonth := by
  have month : (5 * (daysBeforeMonth marchMonth + inMonth) + 2) / 153 = marchMonth := by
    unfold daysBeforeMonth at inside ⊢
    omega
  simp only [ofMarch, month, Nat.add_sub_cancel_left]
  rfl

theorem days_before_next (months : marchMonth ≤ 11)
    (inside : inMonth < monthLength marchYear marchMonth) :
    daysBeforeMonth marchMonth + inMonth < daysBeforeMonth (marchMonth + 1) ∧
      daysBeforeYear marchYear + (daysBeforeMonth marchMonth + inMonth : Nat) <
        daysBeforeYear (marchYear + 1) := by
  have year := daysBeforeYear_succ marchYear
  rcases Nat.lt_or_eq_of_le months with beforeFebruary | rfl
  · have month := daysBeforeMonth_succ marchYear beforeFebruary
    have february : daysBeforeMonth (marchMonth + 1) ≤ daysBeforeMonth 11 := by
      unfold daysBeforeMonth
      omega
    omega
  · have before : daysBeforeMonth 11 = 337 ∧ daysBeforeMonth (11 + 1) = 367 := ⟨rfl, rfl⟩
    have length := february_length marchYear
    split at length <;> omega

theorem ofDay_eq_ofMonth {day : Int} (months : marchMonth ≤ 11)
    (inside : inMonth < monthLength marchYear marchMonth)
    (days : day + epochOffset =
      daysBeforeYear marchYear + (daysBeforeMonth marchMonth + inMonth : Nat)) :
    ofDay day = ofMonth marchYear marchMonth inMonth := by
  obtain ⟨inMarch, inYear⟩ := days_before_next months inside
  rw [ofDay_eq_ofMarch days (days ▸ inYear), ofMarch_eq_ofMonth inMarch]

theorem exists_ofMonth (day : Int) :
    ∃ marchYear marchMonth inMonth, marchMonth ≤ 11 ∧ inMonth < monthLength marchYear marchMonth ∧
      day + epochOffset =
        daysBeforeYear marchYear + (daysBeforeMonth marchMonth + inMonth : Nat) := by
  obtain ⟨marchYear, inYear, -, days, inside⟩ := exists_ofMarch day
  rw [daysBeforeYear_succ] at inside
  have short := daysInMonth_bounds (yearOfMarch marchYear 11) (monthOfMarch 11)
  have before : daysBeforeMonth 11 = 337 := rfl
  by_cases february : 337 ≤ inYear
  · refine ⟨marchYear, 11, inYear - 337, Nat.le_refl _, ?_, ?_⟩
    · omega
    · omega
  · let marchMonth := (5 * inYear + 2) / 153
    have months : marchMonth < 11 := by omega
    have started : daysBeforeMonth marchMonth ≤ inYear := by
      unfold daysBeforeMonth
      omega
    have notOver : inYear < daysBeforeMonth (marchMonth + 1) := by
      unfold daysBeforeMonth
      omega
    rw [daysBeforeMonth_succ marchYear months] at notOver
    refine ⟨marchYear, marchMonth, inYear - daysBeforeMonth marchMonth, ?_, ?_, ?_⟩
    · omega
    · omega
    · omega

theorem isValid_iff {date : Date} :
    date.isValid = true ↔ (1 ≤ date.month ∧ date.month ≤ 12) ∧
      1 ≤ date.day ∧ date.day ≤ daysInMonth date.year date.month := by
  simp only [isValid, Bool.and_eq_true, decide_eq_true_eq, and_assoc]

theorem isValid_ofMonth (months : marchMonth ≤ 11)
    (inside : inMonth < monthLength marchYear marchMonth) :
    (ofMonth marchYear marchMonth inMonth).isValid = true := by
  refine isValid_iff.mpr ⟨?_, Nat.le_add_left 1 inMonth, inside⟩
  simp only [ofMonth, monthOfMarch]
  split <;> omega

theorem isValid_ofDay (day : Int) : (ofDay day).isValid = true := by
  obtain ⟨marchYear, marchMonth, inMonth, months, inside, days⟩ := exists_ofMonth day
  rw [ofDay_eq_ofMonth months inside days]
  exact isValid_ofMonth months inside

theorem toDay_ofMonth (marchYear : Int) (inMonth : Nat) (months : marchMonth ≤ 11) :
    (ofMonth marchYear marchMonth inMonth).toDay + epochOffset =
      daysBeforeYear marchYear + (daysBeforeMonth marchMonth + inMonth : Nat) := by
  simp only [toDay, ofMonth, monthOfMarch, yearOfMarch, daysBeforeYear]
  by_cases sameYear : marchMonth < 10
  · have march : marchMonth + 3 - 3 = marchMonth := by omega
    have spring : marchMonth + 3 > 2 := by omega
    simp only [if_pos sameYear, if_pos spring, march]
    omega
  · have march : marchMonth - 9 + 9 = marchMonth := by omega
    have winter : ¬ marchMonth - 9 > 2 := by omega
    simp only [if_neg sameYear, if_neg winter, march]
    omega

theorem toDay_ofDay (day : Int) : (ofDay day).toDay = day := by
  obtain ⟨marchYear, marchMonth, inMonth, months, inside, days⟩ := exists_ofMonth day
  have counted := toDay_ofMonth marchYear inMonth months
  rw [ofDay_eq_ofMonth months inside days]
  omega

theorem ofDay_injective : Function.Injective ofDay :=
  Function.LeftInverse.injective toDay_ofDay

theorem exists_eq_ofMonth {date : Date} (valid : date.isValid = true) :
    ∃ marchYear marchMonth inMonth, marchMonth ≤ 11 ∧ inMonth < monthLength marchYear marchMonth ∧
      date = ofMonth marchYear marchMonth inMonth := by
  obtain ⟨year, month, day⟩ := date
  obtain ⟨known, one, length⟩ := isValid_iff.mp valid
  obtain ⟨inMonth, rfl⟩ := Nat.exists_eq_add_of_le' one
  have months : 1 ≤ month ∧ month ≤ 12 := known
  by_cases spring : month > 2
  · obtain ⟨marchMonth, rfl⟩ := Nat.exists_eq_add_of_le' spring
    have early : marchMonth < 10 := by omega
    have sameYear : yearOfMarch year marchMonth = year := if_pos early
    have sameMonth : monthOfMarch marchMonth = marchMonth + 3 := if_pos early
    refine ⟨year, marchMonth, inMonth, by omega, ?_, ?_⟩
    · rw [monthLength, sameYear, sameMonth]
      exact length
    · rw [ofMonth, sameYear, sameMonth]
  · have late : ¬ month + 9 < 10 := by omega
    have sameYear : yearOfMarch (year - 1) (month + 9) = year := by
      rw [yearOfMarch, if_neg late, Int.sub_add_cancel]
    have sameMonth : monthOfMarch (month + 9) = month := if_neg late
    refine ⟨year - 1, month + 9, inMonth, by omega, ?_, ?_⟩
    · rw [monthLength, sameYear, sameMonth]
      exact length
    · rw [ofMonth, sameYear, sameMonth]

theorem ofDay_toDay {date : Date} (valid : date.isValid = true) : ofDay date.toDay = date := by
  obtain ⟨marchYear, marchMonth, inMonth, months, inside, rfl⟩ := exists_eq_ofMonth valid
  exact ofDay_eq_ofMonth months inside (toDay_ofMonth marchYear inMonth months)

theorem next_ofMonth (months : marchMonth ≤ 11)
    (inside : inMonth < monthLength marchYear marchMonth) :
    (ofMonth marchYear marchMonth inMonth).next =
      if inMonth + 1 < monthLength marchYear marchMonth then
        ofMonth marchYear marchMonth (inMonth + 1)
      else if marchMonth < 11 then ofMonth marchYear (marchMonth + 1) 0
      else ofMonth (marchYear + 1) 0 0 := by
  have length : daysInMonth (yearOfMarch marchYear marchMonth) (monthOfMarch marchMonth) =
      monthLength marchYear marchMonth := rfl
  simp only [next, ofMonth, length]
  by_cases another : inMonth + 1 < monthLength marchYear marchMonth
  · rw [if_pos another, if_pos another]
  · rw [if_neg another, if_neg another]
    -- The calendar year ends after December, the year from March on after February.
    rcases (by omega : marchMonth < 9 ∨ marchMonth = 9 ∨ marchMonth = 10 ∨ marchMonth = 11) with
      beforeDecember | rfl | rfl | rfl
    · have early : marchMonth < 10 ∧ marchMonth + 1 < 10 := by omega
      have more : marchMonth + 3 < 12 ∧ marchMonth < 11 := by omega
      simp only [monthOfMarch, yearOfMarch, if_pos early.1, if_pos early.2, if_pos more.1,
        if_pos more.2]
    · rfl
    · rfl
    · rfl

theorem ofDay_succ (day : Int) : ofDay (day + 1) = (ofDay day).next := by
  obtain ⟨marchYear, marchMonth, inMonth, months, inside, days⟩ := exists_ofMonth day
  rw [ofDay_eq_ofMonth months inside days, next_ofMonth months inside]
  split
  case isTrue another => exact ofDay_eq_ofMonth months another (by omega)
  case isFalse last =>
    split
    case isTrue beforeFebruary =>
      have month := daysBeforeMonth_succ marchYear beforeFebruary
      have first := daysInMonth_bounds (yearOfMarch marchYear (marchMonth + 1))
        (monthOfMarch (marchMonth + 1))
      exact ofDay_eq_ofMonth beforeFebruary (by unfold monthLength; omega) (by omega)
    case isFalse notBefore =>
      have february : marchMonth = 11 := by omega
      subst february
      have year := daysBeforeYear_succ marchYear
      have march : daysBeforeMonth 0 = 0 := rfl
      have first := daysInMonth_bounds (yearOfMarch (marchYear + 1) 0) (monthOfMarch 0)
      exact ofDay_eq_ofMonth (by omega) (by unfold monthLength; omega) (by omega)

theorem le_next (date : Date) : date ≤ date.next := by
  unfold next
  split
  · exact .inr ⟨rfl, .inr ⟨rfl, Nat.le_succ date.day⟩⟩
  · split
    · exact .inr ⟨rfl, .inl (Nat.lt_succ_self date.month)⟩
    · exact .inl (Int.lt_succ date.year)

theorem ofDay_le {earlier later : Int} (notAfter : earlier ≤ later) :
    ofDay earlier ≤ ofDay later :=
  monotone_int_of_le_succ (fun day => ofDay_succ day ▸ le_next (ofDay day)) notAfter

theorem iterate_next (day : Int) (count : Nat) : next^[count] (ofDay day) = ofDay (day + count) := by
  induction count with
  | zero => rw [Function.iterate_zero, id, Int.natCast_zero, Int.add_zero]
  | succ count ih =>
      rw [Function.iterate_succ_apply', ih, ← ofDay_succ, Int.natCast_succ, Int.add_assoc]

theorem isOf_iff {date : Date} {day : Int} : date.IsOf day ↔ ofDay day = date := by
  have start : epoch = ofDay 0 := by decide
  constructor
  · intro ⟨valid, onward, back⟩
    rcases Int.le_total 0 day with after | before
    · rw [← onward after, start, iterate_next, Int.zero_add, Int.toNat_of_nonneg after]
    · have reached := back before
      rw [← ofDay_toDay valid, start, iterate_next] at reached
      have same := ofDay_injective reached
      have counted : date.toDay = day := by omega
      rw [← counted, ofDay_toDay valid]
  · intro date
    subst date
    refine ⟨isValid_ofDay day, fun after => ?_, fun before => ?_⟩
    · rw [start, iterate_next, Int.zero_add, Int.toNat_of_nonneg after]
    · have sum : day + ((-day).toNat : Int) = 0 := by omega
      rw [iterate_next, sum, start]

/-- The year 1900 has no leap day. -/
example : ofDay (-25509) = ⟨1900, 2, 28⟩ ∧ ofDay (-25508) = ⟨1900, 3, 1⟩ := by decide

end Curfew.Date
