import Curfew.Allowance.Tracker
import Curfew.Json.Record

namespace Curfew

/-! The allowance as JSON: a list of the allowance, what remains of it and the instant
of the previous synchronization. -/

inductive AllowanceField where
  | allowance
  | remaining
  | previous
deriving DecidableEq, Repr

def AllowanceField.name : AllowanceField → String
  | .allowance => "allowance"
  | .remaining => "remaining_duration"
  | .previous => "previous_synchronization_time"

inductive AllowanceFieldError where
  | missing
  | notAnInteger (found : Json.Value)
  | duration (cause : DurationError)
  | instant (cause : InstantOutOfRange)
  | exceedsAllowance (remaining allowance : Duration)

/-- The error and its causes. -/
def AllowanceFieldError.messages : AllowanceFieldError → List String
  | .missing => ["Field is missing"]
  | .notAnInteger found => [s!"Expected an integer, found {found.text}"]
  | .duration cause => ["Invalid duration", cause.message]
  | .instant cause => ["Invalid timestamp", cause.message]
  | .exceedsAllowance remaining allowance =>
      [s!"Remaining {remaining.text} exceeds the allowance of {allowance.text}"]

inductive AllowanceRecordError where
  | notJson
  | notAnArray
  | wrongLength (found : Nat)
  | field (field : AllowanceField) (cause : AllowanceFieldError)

/-- The error and its causes. -/
def AllowanceRecordError.messages : AllowanceRecordError → List String
  | .notJson => ["Allowance record is not valid JSON"]
  | .notAnArray => ["Allowance record is not a JSON array"]
  | .wrongLength found =>
      [s!"Allowance record has {Decimal.text found} fields, expected at most 3"]
  | .field name cause => s!"Invalid allowance record field '{name.name}'" :: cause.messages

namespace AllowanceTracker

open Json (Value)

def toValue (tracker : AllowanceTracker) : Value :=
  .array
    [Json.natural tracker.allowance.milliseconds, Json.natural tracker.remaining.milliseconds,
      Json.integer tracker.previous.milliseconds]

def toText (tracker : AllowanceTracker) : String :=
  tracker.toValue.text

def durationOf : Value → Except AllowanceFieldError Duration
  | .number (.integer milliseconds) =>
      (Duration.ofSignedMilliseconds milliseconds).mapError .duration
  | found => .error (.notAnInteger found)

/-- Integers that do not fit into 64 bits with a sign count as no integers here. -/
def instantOf : Value → Except AllowanceFieldError Instant
  | .number (.integer milliseconds) =>
      if milliseconds < 9223372036854775808 then (Instant.ofMilliseconds milliseconds).mapError .instant
      else .error (.notAnInteger (.number (.integer milliseconds)))
  | found => .error (.notAnInteger found)

def ofFields (allowance remaining previous : Value) :
    Except AllowanceRecordError AllowanceTracker := do
  let allowance ← (durationOf allowance).mapError (.field .allowance)
  let remaining ← (durationOf remaining).mapError (.field .remaining)
  let previous ← (instantOf previous).mapError (.field .previous)
  if remaining.milliseconds > allowance.milliseconds then
    throw (.field .remaining (.exceedsAllowance remaining allowance))
  return ⟨allowance, ⟨remaining, previous⟩⟩

def ofValue : Value → Except AllowanceRecordError AllowanceTracker
  | .array [] => .error (.field .allowance .missing)
  | .array [_] => .error (.field .remaining .missing)
  | .array [_, _] => .error (.field .previous .missing)
  | .array [allowance, remaining, previous] => ofFields allowance remaining previous
  | .array items => .error (.wrongLength items.length)
  | _ => .error .notAnArray

def ofText (text : String) : Except AllowanceRecordError AllowanceTracker :=
  match Value.ofText? text with
  | some value => ofValue value
  | none => .error .notJson

end AllowanceTracker

end Curfew
