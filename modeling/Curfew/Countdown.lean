import Curfew.Time.Instant

namespace Curfew

/-! A countdown moves only when it is synchronized: it then loses the time since the
previous synchronization.  A clock that went back counts as no time. -/

structure Countdown where
  remaining : Duration
  previous : Instant
deriving DecidableEq, Repr

namespace Countdown

def isFinished (countdown : Countdown) : Bool := countdown.remaining.isZero

def synchronize (countdown : Countdown) (now : Instant) : Countdown :=
  ⟨countdown.remaining.minusOrZero (countdown.previous.till now), now⟩

end Countdown

end Curfew
