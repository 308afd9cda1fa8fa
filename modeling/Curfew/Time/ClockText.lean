import Curfew.Text.LetterCase
import Curfew.Text.Pieces
import Curfew.Time.TimeOfDay

namespace Curfew

/-! Times of day as people write them: `19:00`, `7:00 PM` or `12:30am`.  On the twelve
hour clock 12 is the first hour of its half of the day. -/

inductive ClockTextError where
  | shape
  | hour
  | minute
  | halfDayHour
  | outOfRange (cause : TimeOfDayError)
deriving DecidableEq, Repr

def ClockTextError.message : ClockTextError → String
  | .shape => "Expected HH:MM or H:MM AM/PM format"
  | .hour => "Invalid hour"
  | .minute => "Invalid minute"
  | .halfDayHour => "Hour must be 1-12 with AM/PM"
  | .outOfRange cause => cause.message

namespace ClockText

def dropSuffix? (suffix text : List Char) : Option (List Char) :=
  if suffix.isSuffixOf text then some (text.take (text.length - suffix.length)) else none

/-- A number up to 255 in decimal digits, perhaps after a plus sign. -/
def readSmall? (text : List Char) : Option Nat :=
  let digits := match text with
    | '+' :: digits => digits
    | digits => digits
  (Decimal.read? digits).filter (· ≤ 255)

/-- Which clock a lowercase text is written for, and the text without `am` or `pm`. -/
def splitClock (text : List Char) : HourClock × List Char :=
  match dropSuffix? ['a', 'm'] text, dropSuffix? ['p', 'm'] text with
  | some body, _ => (.morning, Text.trimEnd body)
  | none, some body => (.afternoon, Text.trimEnd body)
  | none, none => (.twentyFour, text)

/-- The time that an hour and a minute name on a clock. -/
def timeOn (clock : HourClock) (hour minute : Nat) : Except ClockTextError TimeOfDay :=
  match clock with
  | .twentyFour => (TimeOfDay.ofClock .twentyFour hour minute).mapError .outOfRange
  | half =>
      if hour = 0 ∨ hour > 12 then .error .halfDayHour
      else (TimeOfDay.ofClock half (hour % 12) minute).mapError .outOfRange

def read (text : List Char) : Except ClockTextError TimeOfDay :=
  let (clock, body) := splitClock (Text.lowercase (Text.trim text))
  match Text.pieces ':' body with
  | [hour, minute] =>
      match readSmall? hour, readSmall? minute with
      | none, _ => .error .hour
      | some _, none => .error .minute
      | some hour, some minute => timeOn clock hour minute
  | _ => .error .shape

end ClockText

end Curfew
