import Curfew.Number.Decimal

namespace Curfew

/-! The proleptic Gregorian calendar.  Days are numbered from 1 January 1970, which
is day 0.  Inside the conversions a year begins on 1 March, so that a leap day comes
last; a four-hundred-year cycle then splits evenly into centuries, spans of four
years and years, except that the last century and the last year of a span are one
day longer. -/

structure Date where
  year : Int
  month : Nat
  day : Nat
deriving DecidableEq, Repr

namespace Date

/-- Days from 1 March of year 0 to 1 January 1970. -/
def epochOffset : Int := 719468

/-- Days from 1 March to the first of a month, for months counted from March. -/
def daysBeforeMonth (marchMonth : Nat) : Nat :=
  (153 * marchMonth + 2) / 5

def ofDay (day : Int) : Date :=
  let shifted := day + epochOffset
  let cycle := shifted / 146097
  let inCycle := (shifted % 146097).toNat
  let century := min 3 (inCycle / 36524)
  let inCentury := inCycle - 36524 * century
  let span := inCentury / 1461
  let inSpan := inCentury % 1461
  let single := min 3 (inSpan / 365)
  let inYear := inSpan - 365 * single
  let marchYear := 400 * cycle + 100 * (century : Int) + 4 * (span : Int) + (single : Int)
  let marchMonth := (5 * inYear + 2) / 153
  { year := if marchMonth < 10 then marchYear else marchYear + 1
    month := if marchMonth < 10 then marchMonth + 3 else marchMonth - 9
    day := inYear - daysBeforeMonth marchMonth + 1 }

def toDay (date : Date) : Int :=
  let marchYear := if date.month > 2 then date.year else date.year - 1
  let marchMonth := if date.month > 2 then date.month - 3 else date.month + 9
  365 * marchYear + marchYear / 4 - marchYear / 100 + marchYear / 400 +
    (daysBeforeMonth marchMonth : Int) + (date.day : Int) - 1 - epochOffset

def isLeapYear (year : Int) : Bool :=
  year % 4 == 0 && (year % 100 != 0 || year % 400 == 0)

def daysInMonth (year : Int) (month : Nat) : Nat :=
  if month = 2 then if isLeapYear year then 29 else 28
  else if month = 4 ∨ month = 6 ∨ month = 9 ∨ month = 11 then 30
  else 31

/-- Whether the calendar has such a date. -/
def isValid (date : Date) : Bool :=
  1 ≤ date.month && date.month ≤ 12 && 1 ≤ date.day && date.day ≤ daysInMonth date.year date.month

/-- Years have at least four digits, and a sign outside 0 to 9999. -/
def yearText (year : Int) : String :=
  if year < 0 then "-" ++ String.ofList (Decimal.padded 4 (-year).toNat)
  else if year > 9999 then "+" ++ Decimal.text year.toNat
  else String.ofList (Decimal.padded 4 year.toNat)

def text (date : Date) : String :=
  let month := String.ofList (Decimal.padded 2 date.month)
  let day := String.ofList (Decimal.padded 2 date.day)
  s!"{yearText date.year}-{month}-{day}"

end Date

end Curfew
