import Curfew.Countdown

namespace Curfew

/-! What decides whether a rule protects.  A timed protector protects from its start
until its countdown has run out.  A plea protector protects until somebody pleads, and
then for a period of grace. -/

structure TimedProtector where
  duration : Duration
  running : Option Countdown
deriving DecidableEq, Repr

namespace TimedProtector

def idle (duration : Duration) : TimedProtector := ⟨duration, none⟩

/-- A countdown that has run out is dropped. -/
def resumed (duration : Duration) (running : Option Countdown) : TimedProtector :=
  ⟨duration, running.filter fun countdown => !countdown.isFinished⟩

def protects (protector : TimedProtector) : Bool := protector.running.isSome

/-- Counts the full duration from now on, also when a countdown was running. -/
def start (protector : TimedProtector) (now : Instant) : TimedProtector :=
  { protector with running := some ⟨protector.duration, now⟩ }

def synchronize (protector : TimedProtector) (now : Instant) : TimedProtector :=
  resumed protector.duration (protector.running.map (·.synchronize now))

end TimedProtector

inductive PleaStatus where
  | activated
  | deactivating (grace : Countdown)
  | deactivated
deriving DecidableEq, Repr

namespace PleaStatus

/-- A period of grace that has run out is over. -/
def settled : PleaStatus → PleaStatus
  | .deactivating grace => if grace.isFinished then .deactivated else .deactivating grace
  | status => status

def name : PleaStatus → String
  | .activated => "activated"
  | .deactivating _ => "deactivating"
  | .deactivated => "deactivated"

end PleaStatus

inductive RearmOutcome where
  | alreadyActivated
  | cancelledDeactivation
  | success
deriving DecidableEq, Repr

inductive PleaOutcome where
  | alreadyDeactivating
  | alreadyDeactivated
  | success
deriving DecidableEq, Repr

structure PleaProtector where
  grace : Duration
  status : PleaStatus
deriving DecidableEq, Repr

namespace PleaProtector

def armed (grace : Duration) : PleaProtector := ⟨grace, .activated⟩

def resumed (grace : Duration) (status : PleaStatus) : PleaProtector := ⟨grace, status.settled⟩

def isActivated (protector : PleaProtector) : Bool :=
  match protector.status with
  | .activated => true
  | _ => false

def isDeactivating (protector : PleaProtector) : Bool :=
  match protector.status with
  | .deactivating _ => true
  | _ => false

def isDeactivated (protector : PleaProtector) : Bool :=
  match protector.status with
  | .deactivated => true
  | _ => false

def protects (protector : PleaProtector) : Bool := !protector.isDeactivated

/-- What is left of the grace, while it lasts. -/
def countdown? (protector : PleaProtector) : Option Countdown :=
  match protector.status with
  | .deactivating countdown => some countdown
  | _ => none

def rearm (protector : PleaProtector) : PleaProtector × RearmOutcome :=
  let outcome := match protector.status with
    | .activated => .alreadyActivated
    | .deactivating _ => .cancelledDeactivation
    | .deactivated => .success
  ({ protector with status := .activated }, outcome)

/-- Only the first plea starts the grace. -/
def plead (protector : PleaProtector) (now : Instant) : PleaProtector × PleaOutcome :=
  match protector.status with
  | .activated =>
      ({ protector with status := .deactivating ⟨protector.grace, now⟩ }, .success)
  | .deactivating _ => (protector, .alreadyDeactivating)
  | .deactivated => (protector, .alreadyDeactivated)

def synchronize (protector : PleaProtector) (now : Instant) : PleaProtector :=
  match protector.status with
  | .deactivating countdown =>
      resumed protector.grace (.deactivating (countdown.synchronize now))
  | _ => protector

end PleaProtector

inductive ProtectorKind where
  | timed
  | plea
deriving DecidableEq, Repr

def ProtectorKind.name : ProtectorKind → String
  | .timed => "countdown"
  | .plea => "countdown_after_plea"

inductive Protector where
  | timed (protector : TimedProtector)
  | plea (protector : PleaProtector)
deriving DecidableEq, Repr

namespace Protector

def kind : Protector → ProtectorKind
  | .timed _ => .timed
  | .plea _ => .plea

/-- The configured duration or grace. -/
def duration : Protector → Duration
  | .timed protector => protector.duration
  | .plea protector => protector.grace

def protects : Protector → Bool
  | .timed protector => protector.protects
  | .plea protector => protector.protects

/-- The countdown in progress. -/
def countdown? : Protector → Option Countdown
  | .timed protector => protector.running
  | .plea protector => protector.countdown?

def synchronize (protector : Protector) (now : Instant) : Protector :=
  match protector with
  | .timed protector => .timed (protector.synchronize now)
  | .plea protector => .plea (protector.synchronize now)

/-- A change that answers, of the protectors of one kind. -/
def onPlea {α : Type} (change : PleaProtector → PleaProtector × α) :
    Protector → Option (Protector × α)
  | .plea protector => some ((change protector).map .plea id)
  | .timed _ => none

def onTimed {α : Type} (change : TimedProtector → TimedProtector × α) :
    Protector → Option (Protector × α)
  | .timed protector => some ((change protector).map .timed id)
  | .plea _ => none

end Protector

end Curfew
