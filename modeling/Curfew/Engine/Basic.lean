import Curfew.Allowance.Tracker
import Curfew.Config.Policy
import Curfew.Time.Zone

namespace Curfew

/-! The engine: the rules, what is left of the allowance, and the decisions that follow
from them.  It never reads a clock.  An operation that can fail gives the engine that it leaves
beside its result, whether it has failed or not. -/

structure Engine where
  rules : RuleGroup
  allowance : Option AllowanceTracker
  resetsDaily : Bool
  blockPolicy : BlockPolicy
deriving DecidableEq, Repr

/-- What happened in a synchronization. -/
inductive Event where
  | lifted (id : String)
  | exhausted (allowance : Duration)
  | refilled (allowance : Duration)
deriving DecidableEq, Repr

inductive BlockReason where
  | rule (id : String)
  | allowanceUp (allowance : Duration)
deriving DecidableEq, Repr

structure Decision where
  isBlocked : Bool
  reasons : List BlockReason
deriving DecidableEq, Repr

namespace Decision

def allowed : Decision := ⟨false, []⟩

def ofReasons (reasons : List BlockReason) : Decision :=
  if reasons.isEmpty then allowed else ⟨true, reasons⟩

end Decision

namespace RulePolicy

def initialProtector (policy : RulePolicy) (now : Instant) : Protector :=
  match policy.protector with
  | .timed duration true => .timed ((TimedProtector.idle duration).start now)
  | .timed duration false => .timed (.idle duration)
  | .plea grace => .plea (.armed grace)

def toRule (policy : RulePolicy) (now : Instant) : Rule :=
  ⟨policy.activator, policy.initialProtector now⟩

end RulePolicy

/-- Whether the tracker is of another local day.  Only one that is refilled daily is asked for its
date, and there is no answer where the calendar ends before one of the two. -/
def AllowanceTracker.isStale? (zone : Zone) (resetsDaily : Bool) (tracker : AllowanceTracker)
    (now : Instant) : Option Bool :=
  if resetsDaily then do
    return (← zone.localDate? tracker.previous) != (← zone.localDate? now)
  else some false

/-- The tracker to begin with.  A saved one is taken over if it is for the same allowance
and has no more left than that; it is refilled if it is from another day. -/
def AllowancePolicy.initialTracker? (zone : Zone) (policy : AllowancePolicy) (now : Instant) :
    Option AllowanceTracker → Option AllowanceTracker
  | none => some (.full policy.daily now)
  | some saved =>
      if saved.remaining.milliseconds > saved.allowance.milliseconds then
        some (.full policy.daily now)
      else if saved.allowance ≠ policy.daily then some (.full policy.daily now)
      else (saved.isStale? zone policy.resetDaily now).map fun isStale =>
        if isStale then saved.reset now else saved.resume now

namespace Engine

/-- Why an operation has not come to its end. -/
inductive Failure where
  | refused (error : RuleError)
  /-- A local date was looked up that the calendar does not have, and the operation broke off. -/
  | noLocalDate
deriving DecidableEq, Repr

def insertAll (now : Instant) : List RulePolicy → RuleGroup → Except RuleError RuleGroup
  | [], group => .ok group
  | policy :: rest, group =>
      match group.insert policy.id (policy.toRule now) with
      | (group, .ok ()) => insertAll now rest group
      | (_, .error error) => .error error

/-- The engine of a policy, with the tracker that an earlier run has saved, if any. -/
def ofPolicy (zone : Zone) (policy : Policy) (saved : Option AllowanceTracker) (now : Instant) :
    Except Failure Engine := do
  let rules ← (insertAll now policy.rules (.withCapacity policy.daemon.maxRules)).mapError .refused
  match policy.allowance.mapM fun terms => terms.initialTracker? zone now saved with
  | none => throw .noLocalDate
  | some allowance =>
      return {
        rules
        allowance
        resetsDaily := (policy.allowance.map (·.resetDaily)).getD false
        blockPolicy := policy.daemon.blockPolicy }

def rule? (engine : Engine) (id : String) : Option Rule := engine.rules.get? id

def savedStates (engine : Engine) : SavedStates :=
  engine.rules.rules.map fun _ rule => .capture rule.protector

/-- The rule in its saved state, if there is one that fits. -/
def restoreRule? (states : SavedStates) (id : String) (rule : Rule) : Option Rule :=
  match states.get? id with
  | none => none
  | some state =>
      match state.apply rule.protector with
      | .ok protector => some { rule with protector }
      | .error _ => none

/-- Puts every rule into its saved state if there is one that fits, and counts these. -/
def restore (engine : Engine) (states : SavedStates) : Engine × Nat :=
  let restored id rule := restoreRule? states id rule
  let rules := engine.rules.rules.map fun id rule => (restored id rule).getD rule
  let count := engine.rules.rules.entries.countP fun entry => (restored entry.1 entry.2).isSome
  ({ engine with rules := { engine.rules with rules } }, count)

/-- The rules that protect now and do not after a synchronization, in ascending order. -/
def lifted (engine : Engine) (now : Instant) : List String :=
  (engine.rules.rules.entries.filter fun entry =>
    entry.2.protects && !(entry.2.synchronize now).protects).map Prod.fst

/-- On another local day than the last time the allowance is refilled, if it is at all;
otherwise it is charged. -/
def synchronizeTracker (zone : Zone) (resetsDaily : Bool) (tracker : AllowanceTracker)
    (now : Instant) : AllowanceTracker × Except Failure (List Event) :=
  match tracker.isStale? zone resetsDaily now with
  | none => (tracker, .error .noLocalDate)
  | some true => (tracker.reset now, .ok [.refilled tracker.allowance])
  | some false =>
      let next := tracker.synchronize now
      (next, .ok (if !tracker.isUp && next.isUp then [.exhausted tracker.allowance] else []))

/-- The rules come first: they have moved on also where the allowance then breaks off, and which of
them were lifted is not told in that case. -/
def synchronize (zone : Zone) (engine : Engine) (now : Instant) :
    Engine × Except Failure (List Event) :=
  let lifted := (engine.lifted now).map .lifted
  let rules := engine.rules.synchronize now
  match engine.allowance with
  | none => ({ engine with rules }, .ok lifted)
  | some tracker =>
      let (tracker, told) := synchronizeTracker zone engine.resetsDaily tracker now
      ({ engine with rules, allowance := some tracker }, told.map (lifted ++ ·))

def rulesBlock (engine : Engine) (day : Weekday) (time : TimeOfDay) : Bool :=
  match engine.blockPolicy with
  | .any => engine.rules.anyEffective day time
  | .all => engine.rules.allEffective day time

def ruleReasons (engine : Engine) (day : Weekday) (time : TimeOfDay) : List BlockReason :=
  if engine.rulesBlock day time then (engine.rules.effective day time).map .rule else []

def allowanceReasons (engine : Engine) : List BlockReason :=
  match engine.allowance with
  | some tracker => if tracker.isUp then [.allowanceUp tracker.allowance] else []
  | none => []

def decision (engine : Engine) (day : Weekday) (time : TimeOfDay) : Decision :=
  .ofReasons (engine.ruleReasons day time ++ engine.allowanceReasons)

/-- The decision for the local weekday and time. -/
def decisionAt (zone : Zone) (engine : Engine) (now : Instant) : Decision :=
  engine.decision (zone.localWeekday now) (zone.localTime now)

def setProtector (engine : Engine) (id : String) (rule : Rule) (protector : Protector) : Engine :=
  { engine with rules := engine.rules.set id { rule with protector } }

/-- Changes the protector of one rule and answers.  The change is for one kind of protector, and
undefined for the other one. -/
def act {α : Type} (expected : ProtectorKind) (change : Protector → Option (Protector × α))
    (engine : Engine) (id : String) : Engine × Except Failure α :=
  match engine.rule? id with
  | none => (engine, .error (.refused (.notFound id)))
  | some rule =>
      match change rule.protector with
      | none => (engine, .error (.refused (.wrongKind id rule.protector.kind expected)))
      | some (protector, answer) => (engine.setProtector id rule protector, .ok answer)

def plead (engine : Engine) (id : String) (now : Instant) : Engine × Except Failure PleaOutcome :=
  engine.act .plea (Protector.onPlea (·.plead now)) id

def rearm (engine : Engine) (id : String) : Engine × Except Failure RearmOutcome :=
  engine.act .plea (Protector.onPlea (·.rearm)) id

def start (engine : Engine) (id : String) (now : Instant) : Engine × Except Failure Unit :=
  engine.act .timed (Protector.onTimed fun timed => (timed.start now, ())) id

def insert (engine : Engine) (policy : RulePolicy) (now : Instant) :
    Engine × Except Failure Unit :=
  let (rules, inserted) := engine.rules.insert policy.id (policy.toRule now)
  ({ engine with rules }, inserted.mapError .refused)

def remove (engine : Engine) (id : String) : Engine × Except Failure Rule :=
  match engine.rules.remove id with
  | (rules, some rule) => ({ engine with rules }, .ok rule)
  | (rules, none) => ({ engine with rules }, .error (.refused (.notFound id)))

end Engine

end Curfew
