import Curfew.Path

namespace Curfew

/-! Where the configuration and the saved state are kept by default. -/

/-- The variables of the process environment that are looked at. -/
structure Environment where
  configFile : Option String := none
  dataDir : Option String := none
  configHome : Option String := none
  dataHome : Option String := none
  home : Option String := none
  logFilter : Option String := none
deriving DecidableEq, Repr

namespace Environment

def configFileOfUser (environment : Environment) : String :=
  match environment.configHome, environment.home with
  | some configHome, _ => Path.joinAll configHome ["discipline", "config.toml"]
  | none, some home => Path.joinAll home [".config", "discipline", "config.toml"]
  | none, none => "/etc/discipline/config.toml"

def defaultConfigFile (environment : Environment) : String :=
  environment.configFile.getD environment.configFileOfUser

def dataDirOfUser (environment : Environment) : String :=
  match environment.dataHome, environment.home with
  | some dataHome, _ => Path.join dataHome "discipline"
  | none, some home => Path.joinAll home [".local", "share", "discipline"]
  | none, none => "/tmp/discipline/data"

def defaultDataDir (environment : Environment) : String :=
  environment.dataDir.getD environment.dataDirOfUser

end Environment

end Curfew
