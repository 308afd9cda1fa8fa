import Curfew.Number.Decimal

namespace Curfew

/-! Times of day in milliseconds since midnight. -/

structure TimeOfDay where
  milliseconds : Nat
  withinDay : milliseconds < 86400000
deriving DecidableEq, Repr

/-- The clock an hour is read on.  The two halves of the day count their hours from
zero to eleven. -/
inductive HourClock where
  | twentyFour
  | morning
  | afternoon
deriving DecidableEq, Repr

namespace HourClock

def lastHour : HourClock → Nat
  | .twentyFour => 23
  | .morning | .afternoon => 11

/-- The hour of the day at which the clock reads zero. -/
def firstHour : HourClock → Nat
  | .twentyFour | .morning => 0
  | .afternoon => 12

def name : HourClock → String
  | .twentyFour => "24-hour"
  | .morning => "AM"
  | .afternoon => "PM"

end HourClock

inductive TimeOfDayError where
  | beyondMidnight (milliseconds : Nat)
  | hourOutOfRange (hour : Nat) (clock : HourClock)
  | minuteOutOfRange (minute : Nat)
deriving DecidableEq, Repr

def TimeOfDayError.message : TimeOfDayError → String
  | .beyondMidnight milliseconds =>
      s!"Timestamp {Decimal.text milliseconds} is greater than the maximum of 86399999 " ++
        s!"milliseconds since midnight"
  | .hourOutOfRange hour clock =>
      s!"Hour {Decimal.text hour} is out of range for the {clock.name} clock " ++
        s!"(0-{Decimal.text clock.lastHour})"
  | .minuteOutOfRange minute => s!"Minute {Decimal.text minute} is out of range (0-59)"

namespace TimeOfDay

def midnight : TimeOfDay := ⟨0, by decide⟩

instance : Inhabited TimeOfDay := ⟨midnight⟩

def ofMilliseconds (milliseconds : Nat) : Except TimeOfDayError TimeOfDay :=
  if within : milliseconds < 86400000 then .ok ⟨milliseconds, within⟩
  else .error (.beyondMidnight milliseconds)

/-- The last millisecond of the day stands for anything later. -/
def clamped (milliseconds : Nat) : TimeOfDay :=
  ⟨min milliseconds 86399999, by omega⟩

/-- The time that many whole seconds after midnight.  A fraction of more than a second, as in a leap
second, counts as the last millisecond of the second. -/
def ofParts (seconds nanoseconds : Nat) : TimeOfDay :=
  clamped (seconds * 1000 + min (nanoseconds / 1000000) 999)

/-- The hour is checked before the minute. -/
def ofClock (clock : HourClock) (hour minute : Nat) : Except TimeOfDayError TimeOfDay :=
  if hourFits : hour ≤ clock.lastHour then
    if minuteFits : minute ≤ 59 then
      .ok ⟨(hour + clock.firstHour) * 3600000 + minute * 60000, by
        have : hour + clock.firstHour ≤ 23 := by
          cases clock <;> simp only [HourClock.lastHour, HourClock.firstHour] at * <;> omega
        omega⟩
    else .error (.minuteOutOfRange minute)
  else .error (.hourOutOfRange hour clock)

def hour (time : TimeOfDay) : Nat := time.milliseconds / 3600000

def minute (time : TimeOfDay) : Nat := time.milliseconds % 3600000 / 60000

def text (time : TimeOfDay) : String :=
  let hour := String.ofList (Decimal.padded 2 time.hour)
  let minute := String.ofList (Decimal.padded 2 time.minute)
  s!"{hour}:{minute}"

end TimeOfDay

end Curfew
