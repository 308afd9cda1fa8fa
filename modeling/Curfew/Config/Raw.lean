import Curfew.Config.Days
import Curfew.Json.Record

namespace Curfew

/-! A configuration as it is written, before anything in it is checked. -/

inductive Storage where
  | file
  | sqlite
deriving DecidableEq, Repr

namespace Storage

def name : Storage → String
  | .file => "File"
  | .sqlite => "Sqlite"

def tag : Storage → String
  | .file => "file"
  | .sqlite => "sqlite"

def ofTag? : String → Option Storage
  | "file" => some .file
  | "sqlite" => some .sqlite
  | _ => none

instance : Json.Record Storage where
  encode storage := .string storage.tag
  decode? := Json.tagOf? ofTag?

end Storage

/-- Whether access is blocked while any rule is in effect, or only while all are. -/
inductive BlockPolicy where
  | any
  | all
deriving DecidableEq, Repr

namespace BlockPolicy

def name : BlockPolicy → String
  | .any => "Any"
  | .all => "All"

def tag : BlockPolicy → String
  | .any => "any"
  | .all => "all"

def ofTag? : String → Option BlockPolicy
  | "any" => some .any
  | "all" => some .all
  | _ => none

instance : Json.Record BlockPolicy where
  encode policy := .string policy.tag
  decode? := Json.tagOf? ofTag?

end BlockPolicy

structure RawDaemon where
  tickIntervalSeconds : Option Nat := none
  dataDir : Option String := none
  storage : Option Storage := none
  blockPolicy : Option BlockPolicy := none
  maxRules : Option Nat := none
deriving DecidableEq, Repr

structure RawAllowance where
  dailyMinutes : Nat
  resetDaily : Bool := true
deriving DecidableEq, Repr

inductive RawActivator where
  | always
  | weekly (days : DaySpec) (opens closes : String)
deriving DecidableEq, Repr

inductive RawProtector where
  | timed (minutes : Nat) (startImmediately : Bool)
  | plea (graceMinutes : Nat)
deriving DecidableEq, Repr

structure RawRule where
  id : Option String
  label : Option String
  activator : RawActivator
  protector : RawProtector
deriving DecidableEq, Repr

structure RawConfig where
  version : Nat
  daemon : RawDaemon := {}
  allowance : Option RawAllowance := none
  rules : List RawRule := []
deriving DecidableEq, Repr

/-- The number of rules for which there is room unless the configuration says otherwise. -/
def defaultMaxRules : Nat := 64

namespace RawProtector

def minutes : RawProtector → Nat
  | .timed minutes _ => minutes
  | .plea graceMinutes => graceMinutes

/-- The name of the field that holds the minutes. -/
def minutesField : RawProtector → String
  | .timed .. => "minutes"
  | .plea _ => "grace_minutes"

end RawProtector

def RawConfig.maxRules (config : RawConfig) : Nat :=
  config.daemon.maxRules.getD defaultMaxRules

end Curfew
