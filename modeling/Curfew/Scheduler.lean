import Curfew.Time.Duration

namespace Curfew

/-! Interval timers on a clock that counts milliseconds.  The clock stops wherever a timer
is due, so no call is late; the timer then waits for its next deadline. -/

/-- A timer that waits.  A period is at least one millisecond. -/
structure Timer where
  period : Nat
  positive : 0 < period
  due : Nat
deriving DecidableEq, Repr

namespace Timer

/-- Due for the first time one period after the start. -/
def start (period : Duration) (now : Nat) : Timer where
  period := max period.milliseconds 1
  positive := by omega
  due := now + max period.milliseconds 1

/-- What becomes of a timer where the clock stops. -/
def pass (timer : Timer) (now : Nat) : Timer :=
  if timer.due ≤ now then { timer with due := timer.due + timer.period } else timer

end Timer

/-- The callback of a timer was called. -/
structure Call where
  timer : Nat
  time : Nat
deriving DecidableEq, Repr

structure Scheduler where
  now : Nat := 0
  nextId : Nat := 0
  timers : List (Nat × Timer) := []
  /-- The latest call comes first. -/
  calls : List Call := []
deriving DecidableEq, Repr

namespace Scheduler

/-- Ids count up in a word of 64 bits.  When they have run out nothing is registered. -/
def register (scheduler : Scheduler) (period : Duration) : Scheduler × Option Nat :=
  let id := scheduler.nextId
  if id + 1 < UInt64.size then
    let others := scheduler.timers.filter (·.1 ≠ id)
    ({ scheduler with
        nextId := id + 1
        timers := others ++ [(id, .start period scheduler.now)] }, some id)
  else (scheduler, none)

/-- Whether there was such a timer. -/
def clear (scheduler : Scheduler) (id : Nat) : Scheduler × Bool :=
  ({ scheduler with timers := scheduler.timers.filter (·.1 ≠ id) },
    scheduler.timers.any (·.1 == id))

/-- The first deadline on the way of the clock. -/
def nextStop? (scheduler : Scheduler) (target : Nat) : Option Nat :=
  let deadlines := scheduler.timers.map (·.2.due)
  (deadlines.filter fun due => scheduler.now < due ∧ due ≤ target).min?

/-- The clock moves on to `time`, where whatever is due calls. -/
def stopAt (scheduler : Scheduler) (time : Nat) : Scheduler :=
  let due := scheduler.timers.filter fun entry => entry.2.due ≤ time
  { scheduler with
    now := time
    timers := scheduler.timers.map fun (id, timer) => (id, timer.pass time)
    calls := due.map (fun entry => ⟨entry.1, time⟩) ++ scheduler.calls }

theorem mem_of_nextStop? {scheduler : Scheduler} {target time : Nat}
    (found : scheduler.nextStop? target = some time) :
    (∃ entry ∈ scheduler.timers, entry.2.due = time) ∧ scheduler.now < time ∧ time ≤ target := by
  have member := List.min?_mem found
  simp only [List.mem_filter, List.mem_map, decide_eq_true_eq] at member
  exact member

/-- The clock stops at every deadline on its way, and where it is going. -/
def advanceTo (target : Nat) (scheduler : Scheduler) : Scheduler :=
  match _ : scheduler.nextStop? target with
  | some time => advanceTo target (scheduler.stopAt time)
  | none => scheduler.stopAt target
termination_by target - scheduler.now
decreasing_by
  rename_i found
  obtain ⟨_, forward, within⟩ := mem_of_nextStop? found
  simp only [stopAt]
  omega

def advance (scheduler : Scheduler) (milliseconds : Nat) : Scheduler :=
  scheduler.advanceTo (scheduler.now + milliseconds)

def activeCount (scheduler : Scheduler) : Nat := scheduler.timers.length

/-- When a timer called, in the order of time. -/
def callTimes (scheduler : Scheduler) (id : Nat) : List Nat :=
  ((scheduler.calls.filter (·.timer == id)).map (·.time)).reverse

/-- How often every timer called that was ever registered. -/
def firedCounts (scheduler : Scheduler) : List Nat :=
  (List.range scheduler.nextId).map fun id => (scheduler.callTimes id).length

/-- Everything that can be asked of a scheduler, as data. -/
inductive Request where
  | register (period : Duration)
  | clear (id : Nat)
  | advance (milliseconds : Nat)
deriving DecidableEq, Repr

def perform (scheduler : Scheduler) : Request → Scheduler
  | .register period => (scheduler.register period).1
  | .clear id => (scheduler.clear id).1
  | .advance milliseconds => scheduler.advance milliseconds

def run (scheduler : Scheduler) (requests : List Request) : Scheduler :=
  requests.foldl perform scheduler

end Scheduler

end Curfew
