import Curfew.Config.Validation
import Curfew.Rule

namespace Curfew

/-! The policy that a configuration stands for.  It is defined for every configuration;
what cannot be used as it is written is replaced, and a configuration without problems
holds no such thing. -/

inductive ProtectorPolicy where
  | timed (duration : Duration) (startImmediately : Bool)
  | plea (grace : Duration)
deriving DecidableEq, Repr

structure RulePolicy where
  id : String
  label : String
  activator : Activator
  protector : ProtectorPolicy
deriving DecidableEq, Repr

structure AllowancePolicy where
  daily : Duration
  resetDaily : Bool
deriving DecidableEq, Repr

structure DaemonPolicy where
  tickInterval : Duration
  /-- None unless the configuration names one. -/
  dataDir : Option String
  storage : Storage
  blockPolicy : BlockPolicy
  maxRules : Nat
deriving DecidableEq, Repr

structure Policy where
  daemon : DaemonPolicy
  allowance : Option AllowancePolicy
  rules : List RulePolicy
deriving DecidableEq, Repr

def defaultTickInterval : Duration := Duration.clamped 30000

/-- The longest span stands for minutes that are too many. -/
def minutesOrLongest (minutes : Nat) : Duration :=
  match Duration.ofUnits .minutes minutes with
  | .ok span => span
  | .error _ => .longest

namespace RawDaemon

def tickInterval (daemon : RawDaemon) : Duration :=
  match daemon.tickIntervalSeconds.map (Duration.ofUnits .seconds) with
  | some (.ok span) => span
  | _ => defaultTickInterval

def toPolicy (daemon : RawDaemon) : DaemonPolicy where
  tickInterval := daemon.tickInterval
  dataDir := daemon.dataDir
  storage := daemon.storage.getD .file
  blockPolicy := daemon.blockPolicy.getD .any
  maxRules := daemon.maxRules.getD defaultMaxRules

end RawDaemon

namespace RawActivator

def timeOrMidnight (text : String) : TimeOfDay :=
  match ClockText.read text.toList with
  | .ok time => time
  | .error _ => .midnight

def daysOrNone (days : DaySpec) : WeekdaySet :=
  match days.resolve with
  | .ok set => set
  | .error _ => .empty

def toActivator : RawActivator → Activator
  | .always => .always
  | .weekly days opens closes =>
      .weekly (daysOrNone days) (DailyWindow.ofTimes (timeOrMidnight opens) (timeOrMidnight closes))

end RawActivator

def RawProtector.toPolicy : RawProtector → ProtectorPolicy
  | .timed minutes startImmediately => .timed (minutesOrLongest minutes) startImmediately
  | .plea graceMinutes => .plea (minutesOrLongest graceMinutes)

/-- A rule that is given no id takes the fresh one. -/
def RawRule.toPolicy (rule : RawRule) (freshId : String) : RulePolicy :=
  let id := rule.id.getD freshId
  { id
    label := rule.label.getD id
    activator := rule.activator.toActivator
    protector := rule.protector.toPolicy }

def RawAllowance.toPolicy (allowance : RawAllowance) : AllowancePolicy :=
  ⟨minutesOrLongest allowance.dailyMinutes, allowance.resetDaily⟩

/-- `freshId` gives the id of a rule by its position if the rule has none of its own. -/
def RawConfig.toPolicy (config : RawConfig) (freshId : Nat → String) : Policy where
  daemon := config.daemon.toPolicy
  allowance := config.allowance.map RawAllowance.toPolicy
  rules := config.rules.mapIdx fun position rule => rule.toPolicy (freshId position)

def Policy.rule? (policy : Policy) (id : String) : Option RulePolicy :=
  policy.rules.find? fun rule => rule.id == id

end Curfew
