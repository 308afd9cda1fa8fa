import Curfew.Engine.Basic

namespace Curfew

/-! Everything that can be asked of an engine, as data, and the answers.  A run goes
through a list of operations. -/

inductive Engine.Operation where
  | synchronize (now : Instant)
  | decision (day : Weekday) (time : TimeOfDay)
  | decisionAt (now : Instant)
  | plead (id : String) (now : Instant)
  | rearm (id : String)
  | start (id : String) (now : Instant)
  | insert (policy : RulePolicy) (now : Instant)
  | remove (id : String)
  | save
  | restore (states : SavedStates)

inductive Engine.Answer where
  | events (events : List Event)
  | decision (decision : Decision)
  | plea (outcome : PleaOutcome)
  | rearm (outcome : RearmOutcome)
  | started
  | inserted
  | removed (rule : Rule)
  | saved (states : SavedStates)
  | restored (count : Nat)
deriving DecidableEq

namespace Engine

/-- The engine that an operation leaves, and what is answered. -/
def perform (zone : Zone) (engine : Engine) (operation : Operation) :
    Engine × Except Failure Answer :=
  match operation with
  | .synchronize now => (engine.synchronize zone now).map id (·.map .events)
  | .decision day time => (engine, .ok (.decision (engine.decision day time)))
  | .decisionAt now => (engine, .ok (.decision (engine.decisionAt zone now)))
  | .plead rule now => (engine.plead rule now).map id (·.map .plea)
  | .rearm rule => (engine.rearm rule).map id (·.map .rearm)
  | .start rule now => (engine.start rule now).map id (·.map fun _ => .started)
  | .insert policy now => (engine.insert policy now).map id (·.map fun _ => .inserted)
  | .remove rule => (engine.remove rule).map id (·.map .removed)
  | .save => (engine, .ok (.saved engine.savedStates))
  | .restore states =>
      let (engine, count) := engine.restore states
      (engine, .ok (.restored count))

/-- Every operation meets the engine that the one before it has left, however that has ended. -/
def run (zone : Zone) (engine : Engine) :
    List Operation → Engine × List (Except Failure Answer)
  | [] => (engine, [])
  | operation :: rest =>
      let (next, answer) := engine.perform zone operation
      let (last, answers) := run zone next rest
      (last, answer :: answers)

end Engine

end Curfew
