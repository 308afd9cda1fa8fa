import Curfew.Engine.Basic
import Curfew.Text.Printable

namespace Curfew

/-! What the service has to tell. -/

inductive LogLevel where
  | off
  | error
  | warn
  | info
  | debug
  | trace
deriving DecidableEq, Repr

namespace LogLevel

/-- How many of the levels are at most this one. -/
def rank : LogLevel → Nat
  | .off => 0
  | .error => 1
  | .warn => 2
  | .info => 3
  | .debug => 4
  | .trace => 5

def name : LogLevel → String
  | .off => "OFF"
  | .error => "ERROR"
  | .warn => "WARN"
  | .info => "INFO"
  | .debug => "DEBUG"
  | .trace => "TRACE"

end LogLevel

inductive Signal where
  | terminate
  | interrupt
  | hangUp
deriving DecidableEq, Repr

def Signal.name : Signal → String
  | .terminate => "SIGTERM"
  | .interrupt => "SIGINT"
  | .hangUp => "SIGHUP"

inductive Notice where
  | starting (clockIsSet : Bool)
  | configLoaded (path : String) (rules : Nat)
  | noAllowance
  | usingFiles (directory : String)
  | usingDatabase (path : String)
  | storeUnhealthy
  | allowanceLoaded (remaining : Duration)
  | allowanceUnreadable
  | statesUnreadable
  | running (tickInterval : Duration)
  | happened (event : Event)
  | decided (decision : Decision)
  | allowanceNotSaved
  | statesNotSaved
  | received (signal : Signal)
  | shuttingDown
  | shutDown
deriving DecidableEq, Repr

def Event.text : Event → String
  | .lifted id => s!"Rule no longer protecting rule_id={id}"
  | .exhausted allowance => s!"Allowance used up for today allowance={allowance.text}"
  | .refilled allowance => s!"Allowance refilled for a new day allowance={allowance.text}"

def BlockReason.text : BlockReason → String
  | .rule id => s!"rule {id}"
  | .allowanceUp allowance => s!"allowance of {allowance.text} used up"

def Decision.text (decision : Decision) : String :=
  if decision.isBlocked then
    s!"Access blocked reasons={Text.quotedList (decision.reasons.map BlockReason.text)}"
  else "Access allowed"

def programVersion : String := "0.1.0"

namespace Notice

def level : Notice → LogLevel
  | .storeUnhealthy | .allowanceUnreadable | .statesUnreadable => .warn
  | .allowanceNotSaved | .statesNotSaved => .warn
  | _ => .info

/-- The names of what a notice is about, apart from its text. -/
def fields : Notice → List String
  | .starting _ => ["version", "mock_time"]
  | .configLoaded .. => ["config_path", "rule_count"]
  | .usingFiles _ => ["data_dir"]
  | .usingDatabase _ => ["db_path"]
  | .allowanceLoaded _ => ["remaining"]
  | .running _ => ["tick_interval"]
  | .happened (.lifted _) => ["rule_id"]
  | .happened (.exhausted _) | .happened (.refilled _) => ["allowance"]
  | .decided decision => if decision.isBlocked then ["reasons"] else []
  | .allowanceUnreadable | .statesUnreadable | .allowanceNotSaved | .statesNotSaved => ["error"]
  | .noAllowance | .storeUnhealthy | .received _ | .shuttingDown | .shutDown => []

def text : Notice → String
  | .starting clockIsSet =>
      s!"disciplined starting version={Text.quoted programVersion} mock_time={clockIsSet}"
  | .configLoaded path rules =>
      s!"Configuration loaded config_path={path} rule_count={Decimal.text rules}"
  | .noAllowance => "No allowance configured"
  | .usingFiles directory => s!"Using file stores data_dir={directory}"
  | .usingDatabase path => s!"Using SQLite stores db_path={path}"
  | .storeUnhealthy => "A state store reports unhealthy"
  | .allowanceLoaded remaining => s!"Allowance loaded remaining={remaining.text}"
  | .allowanceUnreadable => "Stored allowance unreadable, starting fresh"
  | .statesUnreadable => "Stored protector states unreadable, using configured state"
  | .running tickInterval => s!"Service running tick_interval={tickInterval.text}"
  | .happened event => event.text
  | .decided decision => decision.text
  | .allowanceNotSaved => "Failed to persist allowance, retrying next tick"
  | .statesNotSaved => "Failed to persist protector states, retrying next tick"
  | .received signal => s!"Received {signal.name}, shutting down gracefully"
  | .shuttingDown => "Shutting down disciplined"
  | .shutDown => "Shutdown complete"

def line (notice : Notice) : String := s!"{notice.level.name} {notice.text}"

end Notice

end Curfew
