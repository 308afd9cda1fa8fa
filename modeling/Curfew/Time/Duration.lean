import Curfew.Number.Decimal

namespace Curfew

/-! Spans of time in whole milliseconds.  A span is at most `2 ^ 53 - 1`, the largest
count that every reader of a saved record takes exactly; arithmetic stops at that
bound and at zero. -/

inductive TimeUnit where
  | milliseconds
  | seconds
  | minutes
  | hours
deriving DecidableEq, Repr

namespace TimeUnit

def factor : TimeUnit → Nat
  | .milliseconds => 1
  | .seconds => 1000
  | .minutes => 60000
  | .hours => 3600000

def name : TimeUnit → String
  | .milliseconds => "milliseconds"
  | .seconds => "seconds"
  | .minutes => "minutes"
  | .hours => "hours"

/-- The largest whole number of units that fits into a span. -/
def maximum (unit : TimeUnit) : Nat :=
  9007199254740991 / unit.factor

theorem factor_pos (unit : TimeUnit) : 0 < unit.factor := by
  cases unit <;> decide

theorem mul_factor_le_iff (unit : TimeUnit) (count : Nat) :
    count * unit.factor ≤ 9007199254740991 ↔ count ≤ unit.maximum :=
  (Nat.le_div_iff_mul_le unit.factor_pos).symm

end TimeUnit

structure Duration where
  milliseconds : Nat
  bounded : milliseconds ≤ 9007199254740991
deriving DecidableEq, Repr

inductive DurationError where
  | negative (milliseconds : Int)
  | tooLarge (unit : TimeUnit) (count : Nat)
deriving DecidableEq, Repr

def DurationError.message : DurationError → String
  | .negative milliseconds =>
      s!"Duration cannot be negative (got {Decimal.intText milliseconds} milliseconds)"
  | .tooLarge unit count =>
      s!"Duration of {Decimal.text count} {unit.name} exceeds the maximum of " ++
        s!"{Decimal.text unit.maximum} {unit.name}"

namespace Duration

def zero : Duration := ⟨0, by decide⟩

def longest : Duration := ⟨9007199254740991, by decide⟩

instance : Inhabited Duration := ⟨zero⟩

/-- The span of `count` units, unless it is too long. -/
def ofUnits (unit : TimeUnit) (count : Nat) : Except DurationError Duration :=
  if fits : count ≤ unit.maximum then
    .ok ⟨count * unit.factor, (unit.mul_factor_le_iff count).mpr fits⟩
  else .error (.tooLarge unit count)

def ofMilliseconds (count : Nat) : Except DurationError Duration :=
  ofUnits .milliseconds count

/-- A count read from outside, where it may have a sign. -/
def ofSignedMilliseconds : Int → Except DurationError Duration
  | .ofNat count => ofMilliseconds count
  | .negSucc count => .error (.negative (.negSucc count))

/-- The span of that many milliseconds, or the longest span if it is too long. -/
def clamped (milliseconds : Nat) : Duration :=
  ⟨min milliseconds 9007199254740991, Nat.min_le_right ..⟩

def isZero (span : Duration) : Bool :=
  span.milliseconds == 0

def minusOrZero (span less : Duration) : Duration :=
  ⟨span.milliseconds - less.milliseconds, by have := span.bounded; omega⟩

def plusOrLongest (span more : Duration) : Duration :=
  clamped (span.milliseconds + more.milliseconds)

def wholeSeconds (span : Duration) : Nat := span.milliseconds / 1000

/-- The part below a second. -/
def nanoseconds (span : Duration) : Nat := span.milliseconds % 1000 * 1000000

theorem ext_milliseconds {span other : Duration}
    (same : span.milliseconds = other.milliseconds) : span = other := by
  cases span; cases other; cases same; rfl

/-- Hours, minutes and seconds, from the largest one that is not zero. -/
def clockText (seconds : Nat) : String :=
  let hours := Decimal.text (seconds / 3600)
  let minutes := Decimal.text (seconds % 3600 / 60)
  let rest := Decimal.text (seconds % 60)
  if seconds / 3600 > 0 then s!"{hours}h {minutes}m {rest}s"
  else if seconds % 3600 / 60 > 0 then s!"{minutes}m {rest}s"
  else s!"{rest}s"

/-- Fractions of a second are not shown. -/
def text (span : Duration) : String :=
  clockText span.wholeSeconds

end Duration

end Curfew
