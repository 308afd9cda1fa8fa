import Curfew.Time.TimeOfDay

namespace Curfew

/-! Windows that open every day.  Both ends belong to the window, in milliseconds
after the midnight of the day it opens; it may run into the next day, but is never
longer than one day. -/

structure DailyWindow where
  opens : Nat
  closes : Nat
  opensWithinDay : opens < 86400000
  ordered : opens ≤ closes
  closesWithinNextDay : closes < 2 * 86400000
  withinOneDay : closes - opens ≤ 86400000
deriving Repr

theorem DailyWindow.eq_iff (left right : DailyWindow) :
    left = right ↔ left.opens = right.opens ∧ left.closes = right.closes := by
  constructor
  · rintro rfl
    exact ⟨rfl, rfl⟩
  · intro ⟨opens, closes⟩
    cases left; cases right
    cases opens; cases closes
    rfl

instance : DecidableEq DailyWindow := fun left right =>
  decidable_of_iff' _ (left.eq_iff right)

inductive DailyWindowError where
  | startOutOfRange (start : Nat)
  | endOutOfRange (finish : Nat)
  | startAfterEnd (start finish : Nat)
  | longerThanOneDay (start finish : Nat)
deriving DecidableEq, Repr

def DailyWindowError.message : DailyWindowError → String
  | .startOutOfRange start =>
      s!"Range start {Decimal.text start} is greater than the maximum of 86399999"
  | .endOutOfRange finish =>
      s!"Range end {Decimal.text finish} is greater than the maximum of 172799999"
  | .startAfterEnd start finish =>
      s!"Range start {Decimal.text start} is later than range end {Decimal.text finish}"
  | .longerThanOneDay start finish =>
      s!"Range {Decimal.text start}..={Decimal.text finish} is longer than one day"

namespace DailyWindow

/-- A window whose end is earlier on the clock than its start ends on the next day. -/
def ofTimes (start finish : TimeOfDay) : DailyWindow :=
  if sameDay : start.milliseconds ≤ finish.milliseconds then
    { opens := start.milliseconds
      closes := finish.milliseconds
      opensWithinDay := start.withinDay
      ordered := sameDay
      closesWithinNextDay := by have := finish.withinDay; omega
      withinOneDay := by have := finish.withinDay; omega }
  else
    { opens := start.milliseconds
      closes := finish.milliseconds + 86400000
      opensWithinDay := start.withinDay
      ordered := by have := start.withinDay; omega
      closesWithinNextDay := by have := finish.withinDay; omega
      withinOneDay := by omega }

def ofMilliseconds (start finish : Nat) : Except DailyWindowError DailyWindow :=
  if startFits : start < 86400000 then
    if endFits : finish < 2 * 86400000 then
      if ordered : start ≤ finish then
        if short : finish - start ≤ 86400000 then
          .ok ⟨start, finish, startFits, ordered, endFits, short⟩
        else .error (.longerThanOneDay start finish)
      else .error (.startAfterEnd start finish)
    else .error (.endOutOfRange finish)
  else .error (.startOutOfRange start)

def crossesMidnight (window : DailyWindow) : Bool :=
  window.closes ≥ 86400000

/-- A time belongs to the window of its own day or to the one that opened the day before. -/
def contains (window : DailyWindow) (time : TimeOfDay) : Bool :=
  let today := time.milliseconds
  let sinceYesterday := time.milliseconds + 86400000
  (window.opens ≤ today && today ≤ window.closes) ||
    (window.opens ≤ sinceYesterday && sinceYesterday ≤ window.closes)

def text (window : DailyWindow) : String :=
  let start := (TimeOfDay.clamped window.opens).text
  let finish := (TimeOfDay.clamped (window.closes % 86400000)).text
  if window.crossesMidnight then s!"{start}-{finish} (next day)" else s!"{start}-{finish}"

end DailyWindow

end Curfew
