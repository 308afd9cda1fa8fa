import Curfew.Config.Raw
import Curfew.Text.Pieces
import Curfew.Text.Printable
import Curfew.Time.ClockText
import Curfew.Time.Duration

namespace Curfew

/-! What can be wrong with a configuration, and in which order it is reported. -/

inductive ConfigProblem where
  | zeroTickInterval
  | tooManyRules (room configured : Nat)
  | allowanceOutOfRange
  | duplicateId (id : String)
  | blankId
  | noDays (rule : String)
  | badDays (rule : String) (cause : DaySpecError)
  | badTime (value : String) (cause : ClockTextError)
  | zeroMinutes (rule field : String)
  | tooManyMinutes (rule field : String) (cause : DurationError)
deriving DecidableEq, Repr

/-- The longest allowance in minutes, one day. -/
def maxDailyMinutes : Nat := 1440

namespace ConfigProblem

/-- How a problem is classified. -/
inductive Kind where
  | rule
  | duplicateRuleId
  | emptyRuleId
  | timeFormat
  | daySpec
  | global
deriving DecidableEq, Repr

def Kind.name : Kind → String
  | .rule => "RuleError"
  | .duplicateRuleId => "DuplicateRuleId"
  | .emptyRuleId => "EmptyRuleId"
  | .timeFormat => "InvalidTimeFormat"
  | .daySpec => "InvalidDaySpec"
  | .global => "GlobalError"

def kind : ConfigProblem → Kind
  | .zeroTickInterval | .tooManyRules .. | .allowanceOutOfRange => .global
  | .duplicateId _ => .duplicateRuleId
  | .blankId => .emptyRuleId
  | .noDays _ | .zeroMinutes .. | .tooManyMinutes .. => .rule
  | .badDays .. => .daySpec
  | .badTime .. => .timeFormat

/-- What the problem is about: a rule, an id or a text. -/
def subject : ConfigProblem → String
  | .duplicateId id => id
  | .noDays rule | .badDays rule _ | .zeroMinutes rule _ | .tooManyMinutes rule _ _ => rule
  | .badTime value _ => value
  | _ => ""

def detail : ConfigProblem → String
  | .zeroTickInterval => "tick_interval_seconds must be greater than zero"
  | .tooManyRules room configured =>
      s!"max_rules is {Decimal.text room} but {Decimal.text configured} rules are configured"
  | .allowanceOutOfRange =>
      s!"allowance.daily_minutes must be between 1 and {Decimal.text maxDailyMinutes}"
  | .duplicateId id => id
  | .blankId => ""
  | .noDays _ => "time activator needs at least one day"
  | .badDays rule cause => s!"rule '{rule}': {cause.message}"
  | .badTime _ cause => cause.message
  | .zeroMinutes _ field => s!"{field} must be greater than zero"
  | .tooManyMinutes _ field cause => s!"{field}: {cause.message}"

def message (problem : ConfigProblem) : String :=
  match problem.kind with
  | .rule => s!"Rule '{problem.subject}': {problem.detail}"
  | .duplicateRuleId => s!"Duplicate rule ID: {problem.subject}"
  | .emptyRuleId => "Rule ID cannot be empty"
  | .timeFormat => s!"Invalid time format '{problem.subject}': {problem.detail}"
  | .daySpec => s!"Invalid day specification: {problem.detail}"
  | .global => s!"Global config error: {problem.detail}"

/-- The problem with its parts by name, texts quoted. -/
def quotedText (problem : ConfigProblem) : String :=
  let subject := Text.quoted problem.subject
  let detail := Text.quoted problem.detail
  match problem.kind with
  | .rule => "RuleError \x7b rule_id: " ++ subject ++ ", message: " ++ detail ++ " \x7d"
  | .emptyRuleId => problem.kind.name
  | .timeFormat =>
      "InvalidTimeFormat \x7b value: " ++ subject ++ ", message: " ++ detail ++ " \x7d"
  | _ => s!"{problem.kind.name}({detail})"

end ConfigProblem

namespace RawRule

/-- How problems name the rule. -/
def shownId (rule : RawRule) : String := rule.id.getD "<unnamed>"

def idProblems (rule : RawRule) : List ConfigProblem :=
  match rule.id with
  | some id => if (Text.trim id.toList).isEmpty then [.blankId] else []
  | none => []

def dayProblems (rule : RawRule) (days : DaySpec) : List ConfigProblem :=
  match days.resolve with
  | .ok set => if set.isEmpty then [.noDays rule.shownId] else []
  | .error cause => [.badDays rule.shownId cause]

def timeProblems (value : String) : List ConfigProblem :=
  match ClockText.read value.toList with
  | .ok _ => []
  | .error cause => [.badTime value cause]

def activatorProblems (rule : RawRule) : List ConfigProblem :=
  match rule.activator with
  | .always => []
  | .weekly days opens closes =>
      rule.dayProblems days ++ timeProblems opens ++ timeProblems closes

def protectorProblems (rule : RawRule) : List ConfigProblem :=
  let field := rule.protector.minutesField
  if rule.protector.minutes = 0 then [.zeroMinutes rule.shownId field]
  else match Duration.ofUnits .minutes rule.protector.minutes with
    | .ok _ => []
    | .error cause => [.tooManyMinutes rule.shownId field cause]

def problems (rule : RawRule) : List ConfigProblem :=
  rule.idProblems ++ rule.activatorProblems ++ rule.protectorProblems

end RawRule

namespace RawConfig

def tickProblems (config : RawConfig) : List ConfigProblem :=
  if config.daemon.tickIntervalSeconds = some 0 then [.zeroTickInterval] else []

def capacityProblems (config : RawConfig) : List ConfigProblem :=
  if config.maxRules < config.rules.length then
    [.tooManyRules config.maxRules config.rules.length]
  else []

def allowanceProblems (config : RawConfig) : List ConfigProblem :=
  match config.allowance with
  | none => []
  | some allowance =>
      if allowance.dailyMinutes = 0 ∨ allowance.dailyMinutes > maxDailyMinutes then
        [.allowanceOutOfRange]
      else []

/-- The ids that stand earlier in the list too, in order. -/
def repeated (seen : List String) : List String → List String
  | [] => []
  | id :: rest =>
      if id ∈ seen then id :: repeated seen rest else repeated (id :: seen) rest

/-- The ids that rules are given. -/
def ids (config : RawConfig) : List String := config.rules.filterMap (·.id)

def problems (config : RawConfig) : List ConfigProblem :=
  config.tickProblems ++ config.capacityProblems ++ config.allowanceProblems ++
    (repeated [] config.ids).map .duplicateId ++ config.rules.flatMap RawRule.problems

end RawConfig

end Curfew
