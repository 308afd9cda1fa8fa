import Curfew.Protector.Saved
import Curfew.Time.DailyWindow

namespace Curfew

/-! Rules.  A rule takes effect while its window is open and its protector protects. -/

inductive Activator where
  | always
  | weekly (weekdays : WeekdaySet) (window : DailyWindow)
deriving DecidableEq, Repr

def Activator.isOpen (activator : Activator) (day : Weekday) (time : TimeOfDay) : Bool :=
  match activator with
  | .always => true
  | .weekly weekdays window => weekdays.contains day && window.contains time

structure Rule where
  activator : Activator
  protector : Protector
deriving DecidableEq, Repr

namespace Rule

def protects (rule : Rule) : Bool := rule.protector.protects

def isEffective (rule : Rule) (day : Weekday) (time : TimeOfDay) : Bool :=
  rule.protects && rule.activator.isOpen day time

def synchronize (rule : Rule) (now : Instant) : Rule :=
  { rule with protector := rule.protector.synchronize now }

end Rule

inductive RuleError where
  | notFound (id : String)
  | duplicate (id : String)
  | groupFull (capacity : Nat)
  | wrongKind (id : String) (actual expected : ProtectorKind)
deriving DecidableEq, Repr

def RuleError.message : RuleError → String
  | .notFound id => s!"Rule not found: {id}"
  | .duplicate id => s!"Rule already exists: {id}"
  | .groupFull capacity => s!"Rule group is full ({Decimal.text capacity} rules)"
  | .wrongKind id actual expected =>
      s!"Rule '{id}' has a {actual.name} protector, expected {expected.name}"

/-- Rules by their ids, of which there is room for `capacity`. -/
structure RuleGroup where
  rules : Table Rule
  capacity : Nat
deriving DecidableEq, Repr

namespace RuleGroup

def withCapacity (capacity : Nat) : RuleGroup := ⟨.empty, capacity⟩

def get? (group : RuleGroup) (id : String) : Option Rule := group.rules.get? id

def size (group : RuleGroup) : Nat := group.rules.size

def isEmpty (group : RuleGroup) : Bool := group.rules.isEmpty

/-- An id that is present is refused before a group that is full.  The group that is left comes
first, also where the rule is refused. -/
def insert (group : RuleGroup) (id : String) (rule : Rule) : RuleGroup × Except RuleError Unit :=
  if group.rules.contains id then (group, .error (.duplicate id))
  else if group.size ≥ group.capacity then (group, .error (.groupFull group.capacity))
  else ({ group with rules := group.rules.insert id rule }, .ok ())

def remove (group : RuleGroup) (id : String) : RuleGroup × Option Rule :=
  ({ group with rules := group.rules.erase id }, group.get? id)

/-- Replaces the rule of an id that is present. -/
def set (group : RuleGroup) (id : String) (rule : Rule) : RuleGroup :=
  { group with rules := group.rules.insert id rule }

def synchronize (group : RuleGroup) (now : Instant) : RuleGroup :=
  { group with rules := group.rules.map fun _ rule => rule.synchronize now }

/-- The ids of the rules in effect, in ascending order. -/
def effective (group : RuleGroup) (day : Weekday) (time : TimeOfDay) : List String :=
  (group.rules.entries.filter fun entry => entry.2.isEffective day time).map Prod.fst

def anyEffective (group : RuleGroup) (day : Weekday) (time : TimeOfDay) : Bool :=
  group.rules.entries.any fun entry => entry.2.isEffective day time

/-- Never true of an empty group. -/
def allEffective (group : RuleGroup) (day : Weekday) (time : TimeOfDay) : Bool :=
  !group.isEmpty && group.rules.entries.all fun entry => entry.2.isEffective day time

def anyProtects (group : RuleGroup) : Bool :=
  group.rules.entries.any fun entry => entry.2.protects

end RuleGroup

end Curfew
