namespace Curfew

/-! What a clock shows in UTC: whole seconds since the start of 1970, of the years -262143 to
262142, and a fraction in nanoseconds.  In the last second of a minute the fraction may reach
two seconds, which is how a leap second is shown. -/

structure ClockReading where
  seconds : Int
  nanoseconds : Nat
  notBefore : -8334601228800 ≤ seconds
  notAfter : seconds ≤ 8210266876799
  fraction : nanoseconds < 1000000000 ∨ (nanoseconds < 2000000000 ∧ seconds % 60 = 59)
deriving DecidableEq, Repr

namespace ClockReading

def ofParts? (seconds : Int) (nanoseconds : Nat) : Option ClockReading :=
  if shown : -8334601228800 ≤ seconds ∧ seconds ≤ 8210266876799 ∧
      (nanoseconds < 1000000000 ∨ (nanoseconds < 2000000000 ∧ seconds % 60 = 59)) then
    some ⟨seconds, nanoseconds, shown.1, shown.2.1, shown.2.2⟩
  else none

/-- The whole milliseconds since the start of 1970; a leap second counts like any other. -/
def milliseconds (reading : ClockReading) : Int :=
  reading.seconds * 1000 + (reading.nanoseconds / 1000000 : Nat)

/-- What a clock that knows no leap second shows after that many milliseconds. -/
def ofMilliseconds? (milliseconds : Int) : Option ClockReading :=
  ofParts? (milliseconds / 1000) ((milliseconds % 1000).toNat * 1000000)

/-- The reading without the part of a millisecond, as a clock that knows no leap second shows
it.  Past the end of the range there is no such reading, and it is left as it is. -/
def truncated (reading : ClockReading) : ClockReading :=
  (ofMilliseconds? reading.milliseconds).getD reading

end ClockReading

end Curfew
