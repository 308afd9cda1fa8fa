import Curfew.Engine.Operation

namespace Curfew

/-! The engine over rules in no particular order, as an unordered map goes through them.
Whatever is read off the rules is sorted, counted or put into a table first. -/

structure Arrangement where
  rules : List (String × Rule)
  capacity : Nat
  allowance : Option AllowanceTracker
  resetsDaily : Bool
  blockPolicy : BlockPolicy

/-- An order of the rules for every step of a run. -/
structure Arrangement.Order where
  arrange : Nat → List (String × Rule) → List (String × Rule)
  perm : ∀ step rules, (arrange step rules).Perm rules

namespace Arrangement

def sorted (ids : List String) : List String := ids.mergeSort fun left right => left ≤ right

def rule? (arrangement : Arrangement) (id : String) : Option Rule :=
  Entries.lookup id arrangement.rules

def add (arrangement : Arrangement) (id : String) (rule : Rule) :
    Arrangement × Except RuleError Unit :=
  if (arrangement.rule? id).isSome then (arrangement, .error (.duplicate id))
  else if arrangement.rules.length ≥ arrangement.capacity then
    (arrangement, .error (.groupFull arrangement.capacity))
  else ({ arrangement with rules := (id, rule) :: arrangement.rules }, .ok ())

/-- Every rule in its place, changed by a function of it and its id. -/
def mapRules (f : String → Rule → Rule) (arrangement : Arrangement) : Arrangement :=
  { arrangement with rules := arrangement.rules.map fun entry => (entry.1, f entry.1 entry.2) }

/-- Replaces the rule of an id that is present. -/
def set (arrangement : Arrangement) (id : String) (rule : Rule) : Arrangement :=
  arrangement.mapRules fun other old => if id = other then rule else old

def addAll (now : Instant) : List RulePolicy → Arrangement → Except RuleError Arrangement
  | [], arrangement => .ok arrangement
  | policy :: rest, arrangement =>
      match arrangement.add policy.id (policy.toRule now) with
      | (arrangement, .ok ()) => addAll now rest arrangement
      | (_, .error error) => .error error

def ofPolicy (zone : Zone) (policy : Policy) (saved : Option AllowanceTracker) (now : Instant) :
    Except Engine.Failure Arrangement := do
  let bare : Arrangement := {
    rules := []
    capacity := policy.daemon.maxRules
    allowance := none
    resetsDaily := (policy.allowance.map (·.resetDaily)).getD false
    blockPolicy := policy.daemon.blockPolicy }
  let arrangement ← (addAll now policy.rules bare).mapError .refused
  match policy.allowance.mapM fun terms => terms.initialTracker? zone now saved with
  | none => throw .noLocalDate
  | some allowance => return { arrangement with allowance }

def lifted (arrangement : Arrangement) (now : Instant) : List String :=
  sorted ((arrangement.rules.filter fun entry =>
    entry.2.protects && !(entry.2.synchronize now).protects).map Prod.fst)

def synchronize (zone : Zone) (arrangement : Arrangement) (now : Instant) :
    Arrangement × Except Engine.Failure (List Event) :=
  let lifted := (arrangement.lifted now).map .lifted
  let next := arrangement.mapRules fun _ rule => rule.synchronize now
  match arrangement.allowance with
  | none => (next, .ok lifted)
  | some tracker =>
      let (tracker, told) := Engine.synchronizeTracker zone arrangement.resetsDaily tracker now
      ({ next with allowance := some tracker }, told.map (lifted ++ ·))

def rulesBlock (arrangement : Arrangement) (day : Weekday) (time : TimeOfDay) : Bool :=
  match arrangement.blockPolicy with
  | .any => arrangement.rules.any fun entry => entry.2.isEffective day time
  | .all =>
      !arrangement.rules.isEmpty && arrangement.rules.all fun entry => entry.2.isEffective day time

def ruleReasons (arrangement : Arrangement) (day : Weekday) (time : TimeOfDay) :
    List BlockReason :=
  if arrangement.rulesBlock day time then
    (sorted ((arrangement.rules.filter fun entry =>
      entry.2.isEffective day time).map Prod.fst)).map .rule
  else []

def allowanceReasons (arrangement : Arrangement) : List BlockReason :=
  match arrangement.allowance with
  | some tracker => if tracker.isUp then [.allowanceUp tracker.allowance] else []
  | none => []

def decision (arrangement : Arrangement) (day : Weekday) (time : TimeOfDay) : Decision :=
  .ofReasons (arrangement.ruleReasons day time ++ arrangement.allowanceReasons)

/-- The states go into a table one after another. -/
def savedStates (arrangement : Arrangement) : SavedStates :=
  .ofList (arrangement.rules.map fun entry => (entry.1, .capture entry.2.protector))

def restore (arrangement : Arrangement) (states : SavedStates) : Arrangement × Nat :=
  (arrangement.mapRules fun id rule => (Engine.restoreRule? states id rule).getD rule,
    arrangement.rules.countP fun entry => (Engine.restoreRule? states entry.1 entry.2).isSome)

def act {α : Type} (expected : ProtectorKind) (change : Protector → Option (Protector × α))
    (arrangement : Arrangement) (id : String) : Arrangement × Except Engine.Failure α :=
  match arrangement.rule? id with
  | none => (arrangement, .error (.refused (.notFound id)))
  | some rule =>
      match change rule.protector with
      | none => (arrangement, .error (.refused (.wrongKind id rule.protector.kind expected)))
      | some (protector, answer) => (arrangement.set id { rule with protector }, .ok answer)

def insert (arrangement : Arrangement) (policy : RulePolicy) (now : Instant) :
    Arrangement × Except Engine.Failure Unit :=
  (arrangement.add policy.id (policy.toRule now)).map id (·.mapError .refused)

def remove (arrangement : Arrangement) (id : String) : Arrangement × Except Engine.Failure Rule :=
  ({ arrangement with rules := Entries.remove id arrangement.rules },
    match arrangement.rule? id with
    | some rule => .ok rule
    | none => .error (.refused (.notFound id)))

def perform (zone : Zone) (arrangement : Arrangement) :
    Engine.Operation → Arrangement × Except Engine.Failure Engine.Answer
  | .synchronize now => (arrangement.synchronize zone now).map id (·.map .events)
  | .decision day time => (arrangement, .ok (.decision (arrangement.decision day time)))
  | .decisionAt now =>
      (arrangement,
        .ok (.decision (arrangement.decision (zone.localWeekday now) (zone.localTime now))))
  | .plead rule now =>
      (arrangement.act .plea (Protector.onPlea (·.plead now)) rule).map id (·.map .plea)
  | .rearm rule => (arrangement.act .plea (Protector.onPlea (·.rearm)) rule).map id (·.map .rearm)
  | .start rule now =>
      (arrangement.act .timed (Protector.onTimed fun timed => (timed.start now, ())) rule).map id
        (·.map fun _ => .started)
  | .insert policy now => (arrangement.insert policy now).map id (·.map fun _ => .inserted)
  | .remove rule => (arrangement.remove rule).map id (·.map .removed)
  | .save => (arrangement, .ok (.saved arrangement.savedStates))
  | .restore states =>
      let (next, count) := arrangement.restore states
      (next, .ok (.restored count))

/-- Before every operation the rules are brought into the order of that step. -/
def run (zone : Zone) (order : Order) (step : Nat) (arrangement : Arrangement) :
    List Engine.Operation → Arrangement × List (Except Engine.Failure Engine.Answer)
  | [] => (arrangement, [])
  | operation :: rest =>
      let arranged := { arrangement with rules := order.arrange step arrangement.rules }
      let (next, answer) := arranged.perform zone operation
      let (last, answers) := run zone order (step + 1) next rest
      (last, answer :: answers)

end Arrangement

end Curfew
