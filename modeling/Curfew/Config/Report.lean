import Curfew.Config.Decode
import Curfew.Environment

namespace Curfew

/-! The report of the command that checks a configuration file. -/

/-- What is found at the place of a configuration file. -/
inductive ConfigSource where
  | missing
  | unreadable (reason : String)
  | text (content : String)
deriving DecidableEq, Repr

structure Report where
  exitCode : Nat
  output : List String
  errors : List String
deriving DecidableEq, Repr

namespace Report

def activatorText : Activator → String
  | .always => "always"
  | .weekly weekdays window => s!"{weekdays.text} {window.text}"

def protectorText : ProtectorPolicy → String
  | .timed duration true => s!"countdown {duration.text} (starts immediately)"
  | .timed duration false => s!"countdown {duration.text}"
  | .plea grace => s!"plea with {grace.text} grace"

def ruleLine (rule : RulePolicy) : String :=
  s!"  - {rule.id} [{activatorText rule.activator}; {protectorText rule.protector}]: {rule.label}"

def allowanceText : Option AllowancePolicy → String
  | none => "none"
  | some allowance =>
      if allowance.resetDaily then allowance.daily.text
      else s!"{allowance.daily.text} (no daily reset)"

def summary (policy : Policy) : List String :=
  ["✓ Configuration is valid", "", "Summary:",
    s!"  Config version: {Decimal.text currentConfigVersion}",
    s!"  Tick interval: {policy.daemon.tickInterval.text}",
    s!"  Storage: {policy.daemon.storage.name}",
    s!"  Block policy: {policy.daemon.blockPolicy.name}",
    s!"  Daily allowance: {allowanceText policy.allowance}",
    s!"  Rules: {Decimal.text policy.rules.length} (max {Decimal.text policy.daemon.maxRules})"]

def success (policy : Policy) : Report where
  exitCode := 0
  output := summary policy ++
    if policy.rules.isEmpty then [] else "" :: "Rules:" :: policy.rules.map ruleLine
  errors := []

def failure (lines : List String) : Report where
  exitCode := 1
  output := []
  errors := "✗ Configuration validation failed" :: "" :: lines

def rejected : ConfigError → Report
  | .malformed => failure ["TOML parse error:"]
  | .unsupportedVersion version =>
      failure
        [s!"Unsupported config version: {Decimal.text version} " ++
          s!"(expected {Decimal.text currentConfigVersion})"]
  | .invalid problems =>
      failure
        (s!"Validation errors ({Decimal.text problems.length}):" ::
          problems.map fun problem => s!"  - {problem.message}")

/-- How to use the command. -/
def usage (environment : Environment) : Report where
  exitCode := 2
  output := []
  errors :=
    ["Usage: validate-config [config-file]", "", "Validates a disciplined configuration file.",
      "", s!"If no path is provided, uses: {environment.defaultConfigFile}", "", "Example:",
      s!"  validate-config {environment.defaultConfigFile}",
      "  validate-config config.example.toml"]

def ofSource (path : String) (freshId : Nat → String) : ConfigSource → Report
  | .missing =>
      { exitCode := 1, output := [], errors := [s!"Error: Configuration file not found: {path}"] }
  | .unreadable reason => failure [s!"Failed to read file: {reason}"]
  | .text content =>
      match Config.read content with
      | .ok config => success (config.toPolicy freshId)
      | .error error => rejected error

end Report

end Curfew
