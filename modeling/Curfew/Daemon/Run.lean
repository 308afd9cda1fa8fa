import Curfew.Daemon.Arguments
import Curfew.Daemon.LogFilter
import Curfew.Service.Start

namespace Curfew

/-! The daemon from its start to a signal. -/

/-- When the daemon starts, ticks and stops. -/
structure Schedule where
  start : Instant
  ticks : List Instant
  stop : Instant
deriving DecidableEq, Repr

/-- What a run of the daemon leaves behind. -/
structure DaemonRun where
  exitCode : Nat
  /-- What is written to standard error. -/
  errors : List String := []
  lines : List String := []
  disk : Disk

/-- What the daemon is started with. -/
structure DaemonStart where
  arguments : List String
  environment : Environment
  zone : Zone
  /-- Whether the clock was set by hand. -/
  clockIsSet : Bool
  signal : Signal
  freshId : Nat → String

namespace Service

/-- No service is left where a tick has broken off. -/
def tickAll (zone : Zone) (service : Service) (trace : Trace) :
    List Instant → Option Service × Trace
  | [] => (some service, trace)
  | now :: rest =>
      match service.tick? zone now trace with
      | some (service, trace) => service.tickAll zone trace rest
      | none => (none, trace)

/-- Runs until a signal comes or a tick breaks off, and leaves an exit code. -/
def run (zone : Zone) (service : Service) (schedule : Schedule) (signal : Signal) (trace : Trace) :
    Nat × Trace :=
  match service.tickAll zone (trace.tell [.running service.tickInterval]) schedule.ticks with
  | (none, trace) => (101, trace)
  | (some service, trace) =>
      let trace := trace.tell [.received signal, .shuttingDown]
      match service.stop? zone schedule.stop trace with
      | some (_, trace) => (0, trace.tell [.shutDown])
      | none => (101, trace)

end Service

namespace DaemonStart

/-- A default that is no path stops the program before it looks at its arguments. -/
def arguments? (start : DaemonStart) : Except Nat Arguments :=
  if start.environment.defaultConfigFile.isEmpty then .error 101
  else
    let read := do
      (← Arguments.read start.arguments).withEnvironment start.environment
    match read with
    | .ok arguments => .ok arguments
    | .error .helpWanted => .error 0
    | .error _ => .error 2

def setup (start : DaemonStart) (arguments : Arguments) : Setup where
  configFile := arguments.config.getD start.environment.defaultConfigFile
  dataDir := arguments.dataDir
  defaultDataDir := start.environment.defaultDataDir
  freshId := start.freshId

def filter? (start : DaemonStart) (arguments : Arguments) : Option (LogFilter × List String) :=
  LogFilter.choose? start.environment.logFilter (arguments.logLevel.getD "info")

def ignoredLine (directive : String) : String :=
  s!"ignoring `{directive}`: invalid filter directive"

/-- What the arguments leave to be done.  A filter that cannot be read stops the program before
it does anything. -/
def run (start : DaemonStart) (schedule : Schedule) (disk : Disk) : DaemonRun :=
  match start.arguments? with
  | .error exitCode => { exitCode, disk }
  | .ok arguments =>
      match start.filter? arguments with
      | none => { exitCode := 101, disk }
      | some (filter, ignored) =>
          let errors := ignored.map ignoredLine
          let lines (trace : Trace) := (trace.log.filter filter.shows).map Notice.line
          let trace : Trace := { disk, log := [.starting start.clockIsSet] }
          match Service.start start.zone (start.setup arguments) schedule.start trace with
          | (.error error, trace) =>
              { exitCode := error.exitCode
                errors := errors ++ error.lines
                lines := lines trace
                disk := trace.disk.closeDatabases }
          | (.ok service, trace) =>
              let (exitCode, trace) := service.run start.zone schedule start.signal trace
              { exitCode, errors, lines := lines trace, disk := trace.disk.closeDatabases }

end DaemonStart

end Curfew
