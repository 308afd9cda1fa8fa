import Curfew.Service.Log
import Curfew.Store.Basic

namespace Curfew

/-! The service drives an engine tick by tick and saves its state after every tick. -/

structure Stores where
  allowance : Option (Store AllowanceTracker AllowanceRecordError)
  states : Store SavedStates Codec.StatesError

structure Service where
  engine : Engine
  stores : Stores
  tickInterval : Duration
  lastDecision : Option Decision := none

/-- The disk a service works on and what it has told so far. -/
structure Trace where
  disk : Disk
  log : List Notice := []

/-- What happens to the writes of one tick. -/
structure Faults where
  allowance : Option Disk.Fault := none
  states : Option Disk.Fault := none

namespace Trace

def tell (trace : Trace) (notices : List Notice) : Trace :=
  { trace with log := trace.log ++ notices }

/-- Writes to a store and tells if that has failed. -/
def save {α ε : Type} (trace : Trace) (fault : Option Disk.Fault) (store : Store α ε) (value : α)
    (failed : Notice) : Trace :=
  match store.write fault value trace.disk with
  | (disk, .ok _) => { trace with disk }
  | (disk, .error _) => Trace.tell { trace with disk } [failed]

end Trace

namespace Service

def saveAllowance (fault : Option Disk.Fault) (service : Service) (trace : Trace) : Trace :=
  match service.stores.allowance, service.engine.allowance with
  | some store, some tracker => trace.save fault store tracker .allowanceNotSaved
  | _, _ => trace

def saveStates (fault : Option Disk.Fault) (service : Service) (trace : Trace) : Trace :=
  trace.save fault service.stores.states service.engine.savedStates .statesNotSaved

/-- A store that cannot be written keeps what it holds until the next tick. -/
def persist (faults : Faults) (service : Service) (trace : Trace) : Trace :=
  service.saveStates faults.states (service.saveAllowance faults.allowance trace)

/-- A decision is told when it differs from the one before. -/
def review (zone : Zone) (service : Service) (now : Instant) : Service × List Notice :=
  let decision := service.engine.decisionAt zone now
  ({ service with lastDecision := some decision },
    if service.lastDecision = some decision then [] else [.decided decision])

/-- One tick.  Where the synchronization breaks off so does the service, before it tells or saves
anything. -/
def tickWith? (faults : Faults) (zone : Zone) (service : Service) (now : Instant) (trace : Trace) :
    Option (Service × Trace) :=
  match service.engine.synchronize zone now with
  | (_, .error _) => none
  | (engine, .ok events) =>
      let (service, notices) := Service.review zone { service with engine } now
      some (service, service.persist faults (trace.tell (events.map .happened ++ notices)))

def tick? (zone : Zone) (service : Service) (now : Instant) (trace : Trace) :
    Option (Service × Trace) :=
  service.tickWith? {} zone now trace

/-- Brings the state up to date and saves it once more.  What happens is no longer told. -/
def stopWith? (faults : Faults) (zone : Zone) (service : Service) (now : Instant) (trace : Trace) :
    Option (Service × Trace) :=
  match service.engine.synchronize zone now with
  | (_, .error _) => none
  | (engine, .ok _) =>
      let service := { service with engine }
      some (service, service.persist faults trace)

def stop? (zone : Zone) (service : Service) (now : Instant) (trace : Trace) :
    Option (Service × Trace) :=
  service.stopWith? {} zone now trace

end Service

end Curfew
