import Curfew.Config.Policy
import Curfew.Toml.Document

namespace Curfew

/-! Configurations out of TOML.  Members that are not known are ignored.  A group of
settings may also be written as a list of its values in order. -/

namespace Config

open Toml (Value)

/-- The members of a table.  A date counts as a table in which no member is known. -/
def membersOf? : Value → Option (List (String × Value))
  | .table members => some members
  | .dateTime => some []
  | _ => none

/-- A member that may be missing but, if it is there, must be readable. -/
def optional? (read : Value → Option α) : Option Value → Option (Option α)
  | none => some none
  | some value => (read value).map some

def withDefault? (read : Value → Option α) (default : α) (value : Option Value) : Option α :=
  (optional? read value).map (·.getD default)

def required? (read : Value → Option α) (value : Option Value) : Option α :=
  value.bind read

def text? : Value → Option String
  | .string text => some text
  | _ => none

def bool? : Value → Option Bool
  | .boolean value => some value
  | _ => none

def natural? : Value → Option Nat
  | .integer (.ofNat value) => some value
  | _ => none

def version? (value : Value) : Option Nat :=
  (natural? value).filter (· < 4294967296)

/-- A name out of a fixed list, alone or as the only member of a table, over nothing. -/
def tag? (read : String → Option α) : Value → Option α
  | .string name => read name
  | .table [(name, .table [])] | .table [(name, .array [])] => read name
  | _ => none

def daemonOf? (member : String → Option Value) : Option RawDaemon := do
  let tickIntervalSeconds ← optional? natural? (member "tick_interval_seconds")
  let dataDir ← optional? text? (member "data_dir")
  let storage ← optional? (tag? Storage.ofTag?) (member "storage")
  let blockPolicy ← optional? (tag? BlockPolicy.ofTag?) (member "block_policy")
  let maxRules ← optional? natural? (member "max_rules")
  some { tickIntervalSeconds, dataDir, storage, blockPolicy, maxRules }

/-- As a list the settings must all be there. -/
def daemon? : Value → Option RawDaemon
  | .array (tick :: dataDir :: storage :: blockPolicy :: maxRules :: _) => do
      some
        { tickIntervalSeconds := some (← natural? tick)
          dataDir := some (← text? dataDir)
          storage := some (← tag? Storage.ofTag? storage)
          blockPolicy := some (← tag? BlockPolicy.ofTag? blockPolicy)
          maxRules := some (← natural? maxRules) }
  | value => do
      let members ← membersOf? value
      daemonOf? fun name => Entries.lookup name members

def allowanceOf? (dailyMinutes resetDaily : Option Value) : Option RawAllowance := do
  let dailyMinutes ← required? natural? dailyMinutes
  let resetDaily ← withDefault? bool? true resetDaily
  some { dailyMinutes, resetDaily }

def allowance? : Value → Option RawAllowance
  | .array items => allowanceOf? items[0]? items[1]?
  | value => do
      let members ← membersOf? value
      allowanceOf? (Entries.lookup "daily_minutes" members) (Entries.lookup "reset_daily" members)

def days? : Value → Option DaySpec
  | .string name => some (.preset name)
  | .array items => (items.mapM text?).map .list
  | _ => none

/-- The name under `type` and a way to look up the settings that belong to it, by name or
by position.  As a list nothing may follow the settings. -/
def typed? (value : Value) : Option (String × (List String → Option (List (Option Value)))) :=
  match value with
  | .array (.string type :: items) =>
      some (type, fun names =>
        if items.length ≤ names.length then
          some ((List.range names.length).map fun position => items[position]?)
        else none)
  | .table members => do
      let type ← (Entries.lookup "type" members).bind text?
      some (type, fun names => some (names.map fun name => Entries.lookup name members))
  | _ => none

def activator? (value : Value) : Option RawActivator := do
  let (type, settings) ← typed? value
  match type with
  | "always" => (settings []).map fun _ => .always
  | "time" =>
      match ← settings ["days", "from", "till"] with
      | [days, opens, closes] =>
          some (.weekly (← required? days? days) (← required? text? opens)
            (← required? text? closes))
      | _ => none
  | _ => none

def protector? (value : Value) : Option RawProtector := do
  let (type, settings) ← typed? value
  match type with
  | "countdown" =>
      match ← settings ["minutes", "start_immediately"] with
      | [minutes, start] =>
          some (.timed (← required? natural? minutes) (← withDefault? bool? false start))
      | _ => none
  | "countdown_after_plea" =>
      match ← settings ["grace_minutes"] with
      | [grace] => (required? natural? grace).map .plea
      | _ => none
  | _ => none

/-- As a list all four must be there. -/
def rule? : Value → Option RawRule
  | .array (id :: label :: activator :: protector :: _) => do
      some
        { id := some (← text? id)
          label := some (← text? label)
          activator := (← activator? activator)
          protector := (← protector? protector) }
  | .table members => do
      let member name := Entries.lookup name members
      some
        { id := (← optional? text? (member "id"))
          label := (← optional? text? (member "label"))
          activator := (← required? activator? (member "activator"))
          protector := (← required? protector? (member "protector")) }
  | _ => none

def rules? : Value → Option (List RawRule)
  | .array items => items.mapM rule?
  | _ => none

def ofMembers? (members : List (String × Value)) : Option RawConfig := do
  let member name := Entries.lookup name members
  some
    { version := (← required? version? (member "config_version"))
      daemon := (← withDefault? daemon? {} (member "daemon"))
      allowance := (← optional? allowance? (member "allowance"))
      rules := (← withDefault? rules? [] (member "rules")) }

def ofText? (text : String) : Option RawConfig :=
  (Toml.members? text).bind ofMembers?

end Config

inductive ConfigError where
  | malformed
  | unsupportedVersion (version : Nat)
  | invalid (problems : List ConfigProblem)
deriving DecidableEq, Repr

def currentConfigVersion : Nat := 1

def ConfigError.message : ConfigError → String
  | .malformed => "Failed to parse TOML"
  | .unsupportedVersion version => s!"Unsupported config version: {Decimal.text version}"
  | .invalid problems =>
      "Validation failed: [" ++
        ", ".intercalate (problems.map ConfigProblem.quotedText) ++ "]"

/-- The version is checked before anything else in a configuration that can be read. -/
def RawConfig.check (config : RawConfig) : Except ConfigError RawConfig :=
  if config.version ≠ currentConfigVersion then .error (.unsupportedVersion config.version)
  else match config.problems with
    | [] => .ok config
    | problems => .error (.invalid problems)

def Config.read (text : String) : Except ConfigError RawConfig :=
  match Config.ofText? text with
  | none => .error .malformed
  | some config => config.check

end Curfew
