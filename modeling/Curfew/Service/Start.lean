import Curfew.Config.Decode
import Curfew.Environment
import Curfew.Service.Basic

namespace Curfew

/-! How a service starts: from its configuration and from what an earlier run has saved. -/

inductive StartError where
  | config (path : String)
  | dataDirectory (path : String)
  | database (path : String)
  | engine
  /-- A local date that was looked up does not exist. -/
  | noLocalDate
deriving DecidableEq, Repr

/-- Where there is no message the start has broken off. -/
def StartError.message? : StartError → Option String
  | .config path => some s!"Failed to load config from {Text.quoted path}"
  | .dataDirectory path => some s!"Failed to create data directory {Text.quoted path}"
  | .database path => some s!"Failed to open database {Text.quoted path}"
  | .engine => some "Failed to build rule engine"
  | .noLocalDate => none

def StartError.exitCode (error : StartError) : Nat := if error.message?.isSome then 1 else 101

/-- What is written to standard error. -/
def StartError.lines (error : StartError) : List String :=
  (error.message?.map fun message => s!"Error: {message}").toList

/-- What a service starts from.  A data directory given here comes before the one that the
configuration names. -/
structure Setup where
  configFile : String
  dataDir : Option String
  defaultDataDir : String
  freshId : Nat → String

namespace Setup

def dataDirOf (setup : Setup) (policy : Policy) : String :=
  setup.dataDir.getD (policy.daemon.dataDir.getD setup.defaultDataDir)

def allowanceFile (directory : String) : String := Path.join directory "allowance.json"
def statesFile (directory : String) : String := Path.join directory "protectors.json"
def databaseFile (directory : String) : String := Path.join directory "disciplined.db"

end Setup

/-- A start works on a trace, which it leaves behind also when it fails. -/
abbrev Start := ExceptT StartError (StateM Trace)

namespace Start

def tell (notice : Notice) : Start Unit :=
  modify fun trace => trace.tell [notice]

def loadConfig (setup : Setup) : Start Policy := do
  match (← get).disk.readText setup.configFile with
  | .error _ => throw (.config setup.configFile)
  | .ok text =>
      match Config.read text with
      | .error _ => throw (.config setup.configFile)
      | .ok config =>
          let policy := config.toPolicy setup.freshId
          tell (.configLoaded setup.configFile policy.rules.length)
          return policy

def makeDataDirectory (path : String) : Start Unit := do
  let trace ← get
  let (disk, result) := Disk.runSteps none trace.disk (trace.disk.directorySteps path)
  set { trace with disk }
  match result with
  | .ok _ => return ()
  | .error _ => throw (.dataDirectory path)

def openDatabase (path key : String) (codec : Codec α ε) : Start (Store α ε) := do
  let trace ← get
  let (disk, store?) := DatabaseStore.open? path key codec trace.disk
  set { trace with disk }
  match store? with
  | some store => return .database store
  | none => throw (.database path)

def fileStores (directory : String) (daily : Option Duration) (now : Instant) : Stores where
  allowance := daily.map fun daily =>
    .file ⟨Setup.allowanceFile directory, .allowance daily now⟩
  states := .file ⟨Setup.statesFile directory, .savedStates⟩

/-- Each store has a connection of its own. -/
def databaseStores (path : String) (daily : Option Duration) (now : Instant) : Start Stores := do
  let allowance ← daily.mapM fun daily => openDatabase path "allowance" (.allowance daily now)
  return { allowance, states := (← openDatabase path "protectors" .savedStates) }

def isHealthy (stores : Stores) (disk : Disk) : Bool :=
  (stores.allowance.map fun store => store.isHealthy disk).getD true && stores.states.isHealthy disk

def openStores (policy : Policy) (directory : String) (now : Instant) : Start Stores := do
  let daily := policy.allowance.map (·.daily)
  if daily.isNone then tell .noAllowance
  let stores ← match policy.daemon.storage with
    | .file => do
        tell (.usingFiles directory)
        pure (fileStores directory daily now)
    | .sqlite => do
        let path := Setup.databaseFile directory
        let stores ← databaseStores path daily now
        tell (.usingDatabase path)
        pure stores
  unless isHealthy stores (← get).disk do tell .storeUnhealthy
  return stores

/-- The allowance that was saved, if there is a store for it and it can be read. -/
def readAllowance (stores : Stores) : Start (Option AllowanceTracker) := do
  match stores.allowance with
  | none => return none
  | some store =>
      let trace ← get
      let (disk, result) := store.read trace.disk
      set { trace with disk }
      match result with
      | .ok tracker =>
          tell (.allowanceLoaded tracker.remaining)
          return some tracker
      | .error _ =>
          tell .allowanceUnreadable
          return none

/-- The engine with every rule in its saved state, as far as that can be read. -/
def restoreStates (stores : Stores) (engine : Engine) : Start Engine := do
  let trace ← get
  let (disk, result) := stores.states.read trace.disk
  set { trace with disk }
  match result with
  | .ok states => return (engine.restore states).1
  | .error _ =>
      tell .statesUnreadable
      return engine

def service (zone : Zone) (setup : Setup) (now : Instant) : Start Service := do
  let policy ← loadConfig setup
  let directory := setup.dataDirOf policy
  makeDataDirectory directory
  let stores ← openStores policy directory now
  let saved ← readAllowance stores
  match Engine.ofPolicy zone policy saved now with
  | .error (.refused _) => throw .engine
  | .error .noLocalDate => throw .noLocalDate
  | .ok engine =>
      let engine ← restoreStates stores engine
      return { engine, stores, tickInterval := policy.daemon.tickInterval }

end Start

/-- Starts a service on a disk. -/
def Service.start (zone : Zone) (setup : Setup) (now : Instant) (trace : Trace) :
    Except StartError Service × Trace :=
  (Start.service zone setup now).run trace

end Curfew
