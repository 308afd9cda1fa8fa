import Curfew.Text.Pieces
import Curfew.Time.Zone

namespace Curfew

/-! A date and a time as a local clock shows them, and the instant they name. -/

structure LocalDateTime where
  date : Date
  hour : Nat
  minute : Nat
  /-- Sixty is a leap second. -/
  second : Nat
deriving DecidableEq, Repr

namespace LocalDateTime

/-- One number, after any blanks, of at most `width` digits, and what follows it. -/
def readNumber? (width : Nat) (text : List Char) : Option (Nat × List Char) :=
  let field := Text.trimStart text
  let digits := (field.take width).takeWhile Decimal.isDigit
  if digits.isEmpty then none else some (Decimal.value digits, field.drop digits.length)

/-- A year has four digits at most, or any number of digits after a sign. -/
def readYear? (text : List Char) : Option (Int × List Char) :=
  match Text.trimStart text with
  | '-' :: digits => signed digits fun year => -year
  | '+' :: digits => signed digits id
  | field => (readNumber? 4 field).map fun (year, rest) => ((year : Int), rest)
where
  signed (digits : List Char) (sign : Int → Int) : Option (Int × List Char) :=
    let year := digits.takeWhile Decimal.isDigit
    if year.isEmpty then none
    else some (sign (Decimal.value year), digits.drop year.length)

def skip? (mark : Char) : List Char → Option (List Char)
  | [] => none
  | c :: rest => if c = mark then some rest else none

/-- Reads year, month, day, hour, minute and second, as in `2025-12-25 21:30:00`.
Each number may be short and have blanks before it; nothing may follow the last. -/
def read? (text : List Char) : Option LocalDateTime := do
  let (year, text) ← readYear? text
  let (month, text) ← readNumber? 2 (← skip? '-' text)
  let (day, text) ← readNumber? 2 (← skip? '-' text)
  let (hour, text) ← readNumber? 2 text
  let (minute, text) ← readNumber? 2 (← skip? ':' text)
  let (second, text) ← readNumber? 2 (← skip? ':' text)
  let date : Date := ⟨year, month, day⟩
  if text.isEmpty && date.isValid && -262143 ≤ year && year ≤ 262142 &&
      hour ≤ 23 && minute ≤ 59 && second ≤ 60 then
    some ⟨date, hour, minute, second⟩
  else none

/-- The instant at which clocks in the zone show this, if they show it exactly once. -/
def instant? (zone : Zone) (clock : LocalDateTime) : Option Instant := do
  let minutes := clock.date.toDay * 1440 + (clock.hour * 60 + clock.minute : Nat)
  let shown := 60000 * minutes + 1000 * (min clock.second 59 : Nat)
  let offset ← zone.offsetAtLocal? shown
  (Instant.ofMilliseconds (60000 * minutes + 1000 * (clock.second : Int) - offset)).toOption

end LocalDateTime

end Curfew
