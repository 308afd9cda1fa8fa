import Curfew.Config.Report
import Curfew.Daemon.Run
import Curfew.Disk.Step
import Curfew.FreshId
import Curfew.Time.LocalDateTime
import Std.Time.DateTime.Timestamp
import Std.Time.Zoned.Database

namespace Curfew.Command

/-! The commands on a real machine.  `validate-config` as the first argument checks a file; all
other arguments start the daemon.  What the daemon looks at is read onto a disk, and what it has
changed there is written back.  Databases cannot be opened, and the daemon runs until it is
killed, having saved its state at every tick. -/

/-- A clock ahead of that of the machine. -/
structure Clock where
  ahead : Int := 0
  isSet : Bool := false

def machineTime : IO Instant := do
  let milliseconds := (← Std.Time.Timestamp.now).toMillisecondsSinceUnixEpoch.val
  return (Instant.ofMilliseconds milliseconds).toOption.getD .epoch

/-- The offset that is in force at an instant, as a zone. -/
def zoneAt (now : Instant) : IO Zone := do
  let rules ← Std.Time.Database.defaultGetLocalZoneRules
  let timestamp := Std.Time.Timestamp.ofMillisecondsSinceUnixEpoch ⟨now.milliseconds⟩
  return .east (rules.timezoneAt timestamp).offset.second.val

def Clock.now (clock : Clock) : IO Instant := do
  let now ← machineTime
  return (Instant.ofMilliseconds (now.milliseconds + clock.ahead)).toOption.getD now

/-- The clock may be set by a local date and time in the environment. -/
def clockOfEnvironment : IO Clock := do
  let now ← machineTime
  let zone ← zoneAt now
  let text? ← IO.getEnv "DISCIPLINE_MOCK_TIME"
  match text?.bind fun text => (LocalDateTime.read? text.toList).bind (·.instant? zone) with
  | some instant => return { ahead := instant.milliseconds - now.milliseconds, isSet := true }
  | none => return {}

def environment : IO Environment := do
  return {
    configFile := (← IO.getEnv "DISCIPLINE_CONFIG")
    dataDir := (← IO.getEnv "DISCIPLINE_DATA_DIR")
    configHome := (← IO.getEnv "XDG_CONFIG_HOME")
    dataHome := (← IO.getEnv "XDG_DATA_HOME")
    home := (← IO.getEnv "HOME")
    logFilter := (← IO.getEnv "DISCIPLINE_LOG") }

def freshIds : IO (Nat → String) := do
  return FreshId.ofSeed (← IO.rand 0 (Nat.pow 2 128 - 1))

def sourceAt (path : String) : IO ConfigSource := do
  try
    return .text (← IO.FS.readFile path)
  catch
    | .noFileOrDirectory .. => return .missing
    | .inappropriateType .. => return .unreadable "Is a directory (os error 21)"
    | .userError _ => return .unreadable "stream did not contain valid UTF-8"
    | error => return .unreadable (toString error)

/-- What stands for a file that holds no text. -/
def unreadableContent : Content := .binary 4096

/-- Puts what is at a path of the machine on a disk. -/
def load (disk : Disk) (path : String) : IO Disk := do
  match ← sourceAt path with
  | .missing => return disk
  | .text content => return disk.withFile path (.text content)
  | .unreadable _ => return disk.withFile path unreadableContent

/-- The files of a data directory, among them a database that cannot be opened. -/
def loadState (disk : Disk) (directory : String) : IO Disk := do
  let disk := disk.withFile (Setup.databaseFile directory) unreadableContent
  load (← load disk (Setup.allowanceFile directory)) (Setup.statesFile directory)

def emptyDisk : IO Disk := do
  let directory := toString (← IO.currentDir)
  let disk : Disk := { entries := .empty, workingDirectory := Path.names directory }
  return disk.withDirectories directory

/-- Writes to the machine what has changed on a disk. -/
def save (before after : Disk) : IO Unit := do
  for (path, entry) in after.entries.entries do
    if before.entries.get? path ≠ some entry then
      match entry with
      | .directory => IO.FS.createDirAll path
      | .file _ (.text content) =>
          let draft := path ++ ".tmp"
          IO.FS.createDirAll ((Path.parent? path).getD "/")
          IO.FS.writeFile draft content
          IO.FS.rename draft path
      | .file .. => pure ()

/-- Writing is tried again at the next tick. -/
def trySave (before after : Disk) : IO Unit := do
  try save before after
  catch error => IO.eprintln s!"{error}"

def print (report : Report) : IO UInt32 := do
  for line in report.output do IO.println line
  for line in report.errors do IO.eprintln line
  return report.exitCode.toUInt32

def validate : List String → IO UInt32
  | [] => do print (Report.usage (← environment))
  | path :: _ => do print (Report.ofSource path (← freshIds) (← sourceAt path))

def tell (filter : LogFilter) (now : Instant) (trace : Trace) : IO Unit := do
  for notice in trace.log.filter filter.shows do
    IO.println s!"{now.text} {notice.line}"
  (← IO.getStdout).flush

/-- Goes on until a tick breaks off. -/
partial def serve (clock : Clock) (filter : LogFilter) (directory : String) (service : Service) :
    IO Unit := do
  let now ← clock.now
  let disk ← loadState (← emptyDisk) directory
  match service.tick? (← zoneAt now) now { disk } with
  | none => return
  | some (service, trace) =>
      tell filter now trace
      trySave disk trace.disk
      IO.sleep (min service.tickInterval.milliseconds 4294967295).toUInt32
      serve clock filter directory service

/-- The data directory that the configuration on a disk leads to, if it is valid. -/
def dataDirOn? (setup : Setup) (disk : Disk) : Option String := do
  let text ← (disk.readText setup.configFile).toOption
  let config ← (Config.read text).toOption
  some (setup.dataDirOf (config.toPolicy setup.freshId))

def runDaemon (arguments : List String) : IO UInt32 := do
  let clock ← clockOfEnvironment
  let now ← clock.now
  let start : DaemonStart := {
    arguments
    environment := (← environment)
    zone := (← zoneAt now)
    clockIsSet := clock.isSet
    signal := .terminate
    freshId := (← freshIds) }
  match start.arguments? with
  | .error exitCode =>
      IO.eprintln "Usage: disciplined [-c PATH] [-d PATH] [-l LEVEL]"
      return exitCode.toUInt32
  | .ok given =>
      match start.filter? given with
      | none => return 101
      | some (filter, ignored) =>
          for directive in ignored do IO.eprintln (DaemonStart.ignoredLine directive)
          let setup := start.setup given
          let disk ← load (← emptyDisk) setup.configFile
          let directory := (dataDirOn? setup disk).getD setup.defaultDataDir
          let disk ← loadState disk directory
          let trace : Trace := { disk, log := [.starting clock.isSet] }
          match Service.start start.zone setup now trace with
          | (.error error, trace) =>
              tell filter now trace
              for line in error.lines do IO.eprintln line
              return error.exitCode.toUInt32
          | (.ok service, trace) =>
              tell filter now (trace.tell [.running service.tickInterval])
              trySave disk trace.disk
              serve clock filter directory service
              return 101

end Curfew.Command

def main : List String → IO UInt32
  | "validate-config" :: arguments => Curfew.Command.validate arguments
  | arguments => Curfew.Command.runDaemon arguments
