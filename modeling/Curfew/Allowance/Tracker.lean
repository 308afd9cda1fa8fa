import Curfew.Countdown

namespace Curfew

/-! The daily allowance and what is left of it. -/

structure AllowanceTracker where
  allowance : Duration
  countdown : Countdown
deriving DecidableEq, Repr

namespace AllowanceTracker

/-- The full allowance, counting from now. -/
def full (allowance : Duration) (now : Instant) : AllowanceTracker :=
  ⟨allowance, ⟨allowance, now⟩⟩

def remaining (tracker : AllowanceTracker) : Duration := tracker.countdown.remaining

def previous (tracker : AllowanceTracker) : Instant := tracker.countdown.previous

def isUp (tracker : AllowanceTracker) : Bool := tracker.countdown.isFinished

def synchronize (tracker : AllowanceTracker) (now : Instant) : AllowanceTracker :=
  { tracker with countdown := tracker.countdown.synchronize now }

def reset (tracker : AllowanceTracker) (now : Instant) : AllowanceTracker :=
  full tracker.allowance now

/-- Goes on from now without charging the time since the last synchronization. -/
def resume (tracker : AllowanceTracker) (now : Instant) : AllowanceTracker :=
  { tracker with countdown := ⟨tracker.remaining, now⟩ }

end AllowanceTracker

end Curfew
