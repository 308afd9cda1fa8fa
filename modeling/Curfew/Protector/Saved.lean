import Curfew.Protector.Basic
import Curfew.Table

namespace Curfew

/-! The state of a protector as it is saved.  Saved counts are only known to fit into 64
bits; whether they fit the protector is found out when they are applied. -/

structure SavedCountdown where
  remaining : Nat
  previous : Int
  remainingFits : remaining < 18446744073709551616
  previousFits : -9223372036854775808 ≤ previous ∧ previous < 9223372036854775808
deriving DecidableEq, Repr

inductive SavedState where
  | idle
  | running (countdown : SavedCountdown)
  | activated
  | deactivating (countdown : SavedCountdown)
  | deactivated
deriving DecidableEq, Repr

inductive SavedStateError where
  | kindMismatch (state : String) (kind : ProtectorKind)
  | duration (cause : DurationError)
  | instant (cause : InstantOutOfRange)
  | exceedsDuration (remaining limit : Duration)
deriving DecidableEq, Repr

/-- The error and its causes. -/
def SavedStateError.messages : SavedStateError → List String
  | .kindMismatch state kind =>
      [s!"Saved state '{state}' does not fit a {kind.name} protector"]
  | .duration cause => ["Invalid remaining duration", cause.message]
  | .instant cause => ["Invalid synchronization timestamp", cause.message]
  | .exceedsDuration remaining limit =>
      [s!"Remaining {remaining.text} exceeds the protector duration of {limit.text}"]

namespace SavedCountdown

def capture (countdown : Countdown) : SavedCountdown where
  remaining := countdown.remaining.milliseconds
  previous := countdown.previous.milliseconds
  remainingFits := by have := countdown.remaining.bounded; omega
  previousFits := by
    have := countdown.previous.notBefore
    have := countdown.previous.notAfter
    omega

/-- The countdown that was saved, for a protector of the given duration. -/
def restore (saved : SavedCountdown) (duration : Duration) :
    Except SavedStateError Countdown := do
  let remaining ← (Duration.ofMilliseconds saved.remaining).mapError .duration
  if remaining.milliseconds > duration.milliseconds then
    throw (.exceedsDuration remaining duration)
  let previous ← (Instant.ofMilliseconds saved.previous).mapError .instant
  return ⟨remaining, previous⟩

end SavedCountdown

namespace SavedState

def name : SavedState → String
  | .idle => "idle"
  | .running _ => "running"
  | .activated => "activated"
  | .deactivating _ => "deactivating"
  | .deactivated => "deactivated"

def capture : Protector → SavedState
  | .timed protector =>
      match protector.running with
      | none => .idle
      | some countdown => .running (.capture countdown)
  | .plea protector =>
      match protector.status with
      | .activated => .activated
      | .deactivating grace => .deactivating (.capture grace)
      | .deactivated => .deactivated

/-- The protector in the saved state; its kind and its duration stay. -/
def apply (state : SavedState) (protector : Protector) : Except SavedStateError Protector :=
  match protector, state with
  | .timed timed, .idle => return .timed (.resumed timed.duration none)
  | .timed timed, .running saved => do
      return .timed (.resumed timed.duration (some (← saved.restore timed.duration)))
  | .plea plea, .activated => return .plea (.resumed plea.grace .activated)
  | .plea plea, .deactivating saved => do
      return .plea (.resumed plea.grace (.deactivating (← saved.restore plea.grace)))
  | .plea plea, .deactivated => return .plea (.resumed plea.grace .deactivated)
  | protector, state => throw (.kindMismatch state.name protector.kind)

end SavedState

/-- The saved state of every rule, by the rule's id. -/
abbrev SavedStates := Table SavedState

end Curfew
