import Curfew.Proofs.Countdown
import Curfew.Proofs.Engine.Construction
import Curfew.Proofs.Protector
import Curfew.Proofs.Since

namespace Curfew

/-! The life of a rule, from its latest insertion on.  Its protector can be read off the
operations since then, without a state that is carried from one to the next: off the
first plea since the rule was last armed, off the latest start of its countdown, and off
the times of synchronization. -/

structure Lifetime where
  policy : RulePolicy
  inserted : Instant
  /-- What has been done to the rule since then, and the synchronizations, in order. -/
  operations : List Engine.Operation

namespace Engine.Operation

def pleaTime? (id : String) : Operation → Option Instant
  | .plead target now => if target = id then some now else none
  | _ => none

def startTime? (id : String) : Operation → Option Instant
  | .start target now => if target = id then some now else none
  | _ => none

def rearm? (id : String) : Operation → Option Unit
  | .rearm target => if target = id then some () else none
  | _ => none

def concerns (id : String) (operation : Operation) : Bool :=
  operation.tick?.isSome || (operation.pleaTime? id).isSome ||
    (operation.startTime? id).isSome || (operation.rearm? id).isSome

def isRestore : Operation → Bool
  | .restore _ => true
  | _ => false

end Engine.Operation

namespace Lifetime

open Engine (Operation Answer Failure ticksOf ticksOf_concat)

def sinceArmed (id : String) (operations : List Operation) : List Operation :=
  match sinceLast? (Operation.rearm? id) operations with
  | some (_, later) => later
  | none => operations

def firstPlea? (id : String) (operations : List Operation) : Option (Instant × List Operation) :=
  sinceFirst? (Operation.pleaTime? id) (sinceArmed id operations)

/-- The status of a plea protector, read off the operations: after the first `plead` only ticks
count. -/
def status (id : String) (grace : Duration) (operations : List Operation) : PleaStatus :=
  match firstPlea? id operations with
  | none => .activated
  | some (pleaded, later) =>
      match Countdown.running? grace pleaded (ticksOf later) with
      | some countdown => .deactivating countdown
      | none => .deactivated

def latestStart? (id : String) (atInsertion : Option Instant) (operations : List Operation) :
    Option (Instant × List Operation) :=
  match sinceLast? (Operation.startTime? id) operations with
  | some found => some found
  | none => atInsertion.map fun inserted => (inserted, operations)

def running (id : String) (duration : Duration) (atInsertion : Option Instant)
    (operations : List Operation) : Option Countdown :=
  match latestStart? id atInsertion operations with
  | none => none
  | some (started, later) => Countdown.running? duration started (ticksOf later)

def protector (id : String) (life : Lifetime) : Protector :=
  match life.policy.protector with
  | .timed duration startImmediately =>
      let atInsertion := if startImmediately then some life.inserted else none
      .timed ⟨duration, running id duration atInsertion life.operations⟩
  | .plea grace => .plea ⟨grace, status id grace life.operations⟩

def rule (id : String) (life : Lifetime) : Rule :=
  ⟨life.policy.activator, life.protector id⟩

def push (life : Lifetime) (operation : Operation) : Lifetime :=
  { life with operations := life.operations ++ [operation] }

/-- A successful `insert` of the rule begins its life anew, a successful `remove` ends it. -/
def advance (id : String) (life : Option Lifetime) :
    Operation × Except Failure Answer → Option Lifetime
  | (.insert policy now, .ok _) => if policy.id = id then some ⟨policy, now, []⟩ else life
  | (.remove target, .ok _) => if target = id then none else life
  | (operation, _) =>
      life.map fun life => if operation.concerns id then life.push operation else life

def of? (zone : Zone) (policy : Policy) (begin : Instant) (engine : Engine)
    (operations : List Operation) (id : String) : Option Lifetime :=
  (engine.trace zone operations).foldl (advance id)
    ((policy.rule? id).map fun rule => ⟨rule, begin, []⟩)

theorem firstPlea?_concat (id : String) (before : List Operation) (operation : Operation) :
    firstPlea? id (before ++ [operation]) =
      match operation.rearm? id with
      | some _ => none
      | none =>
          match firstPlea? id before with
          | some (pleaded, later) => some (pleaded, later ++ [operation])
          | none => (operation.pleaTime? id).map fun pleaded => (pleaded, []) := by
  have armed : sinceArmed id (before ++ [operation]) =
      match operation.rearm? id with
      | some _ => []
      | none => sinceArmed id before ++ [operation] := by
    rw [sinceArmed, sinceLast?_concat, sinceArmed]
    cases operation.rearm? id with
    | some found => rfl
    | none => cases sinceLast? (Operation.rearm? id) before <;> rfl
  rw [firstPlea?, armed]
  cases operation.rearm? id with
  | some found => rfl
  | none =>
      simp only [sinceFirst?_concat, firstPlea?]
      cases sinceFirst? (Operation.pleaTime? id) (sinceArmed id before) <;> rfl

theorem latestStart?_concat (id : String) (atInsertion : Option Instant)
    (before : List Operation) (operation : Operation) :
    latestStart? id atInsertion (before ++ [operation]) =
      match operation.startTime? id with
      | some now => some (now, [])
      | none =>
          (latestStart? id atInsertion before).map
            fun (started, later) => (started, later ++ [operation]) := by
  rw [latestStart?, sinceLast?_concat, latestStart?]
  cases operation.startTime? id with
  | some now => rfl
  | none =>
      cases sinceLast? (Operation.startTime? id) before <;> cases atInsertion <;> rfl

theorem status_concat_idle {id : String} {operation : Operation} (grace : Duration)
    (before : List Operation) (noRearm : operation.rearm? id = none)
    (noPlea : operation.pleaTime? id = none) (noTick : operation.tick? = none) :
    status id grace (before ++ [operation]) = status id grace before := by
  rw [status, status, firstPlea?_concat, noRearm, noPlea]
  cases firstPlea? id before with
  | none => rfl
  | some found => simp [ticksOf_concat, noTick]

theorem status_concat_synchronize (id : String) (grace : Duration) (before : List Operation)
    (now : Instant) :
    status id grace (before ++ [.synchronize now]) =
      ((⟨grace, status id grace before⟩ : PleaProtector).synchronize now).status := by
  rw [status, status, firstPlea?_concat]
  cases firstPlea? id before with
  | none => rfl
  | some found =>
      obtain ⟨pleaded, later⟩ := found
      simp only [Operation.rearm?, ticksOf_concat, Operation.tick?, Option.toList_some,
        Countdown.running?_concat]
      cases Countdown.running? grace pleaded (ticksOf later) with
      | none => rfl
      | some countdown =>
          cases finished : (countdown.synchronize now).isFinished <;>
            simp [PleaProtector.synchronize, PleaProtector.resumed, PleaStatus.settled,
              Option.filter, finished]

theorem status_concat_plead (id : String) (grace : Duration) (before : List Operation)
    (now : Instant) :
    status id grace (before ++ [.plead id now]) =
      ((⟨grace, status id grace before⟩ : PleaProtector).plead now).1.status := by
  rw [status, status, firstPlea?_concat]
  cases firstPlea? id before with
  | none =>
      simp [Operation.rearm?, Operation.pleaTime?, PleaProtector.plead, ticksOf]
  | some found =>
      obtain ⟨pleaded, later⟩ := found
      simp only [Operation.rearm?, ticksOf_concat, Operation.tick?, Option.toList_none,
        List.append_nil]
      cases Countdown.running? grace pleaded (ticksOf later) <;> rfl

theorem status_concat_rearm (id : String) (grace : Duration) (before : List Operation) :
    status id grace (before ++ [.rearm id]) = .activated := by
  rw [status, firstPlea?_concat]
  simp [Operation.rearm?]

theorem effect_status (id : String) (grace : Duration) (before : List Operation)
    (operation : Operation) (noRestore : operation.isRestore = false) :
    operation.effect id (.plea ⟨grace, status id grace before⟩) =
      .plea ⟨grace, status id grace (before ++ [operation])⟩ := by
  have plea_status (protector : PleaProtector) (same : protector.grace = grace) :
      Protector.plea protector = .plea ⟨grace, protector.status⟩ := by rw [← same]
  cases operation with
  | synchronize now =>
      rw [status_concat_synchronize]
      exact plea_status _ (PleaProtector.grace_synchronize ..)
  | plead target now =>
      by_cases same : target = id
      · subst same
        rw [status_concat_plead, Operation.effect, if_pos rfl]
        exact plea_status _ (PleaProtector.grace_plead ..)
      · have other : (Operation.plead target now).pleaTime? id = none := if_neg same
        rw [status_concat_idle grace before rfl other rfl, Operation.effect, if_neg same]
  | rearm target =>
      by_cases same : target = id
      · subst same
        rw [status_concat_rearm, Operation.effect, if_pos rfl]
        rfl
      · have other : (Operation.rearm target).rearm? id = none := if_neg same
        rw [status_concat_idle grace before other rfl rfl, Operation.effect, if_neg same]
  | start target now =>
      rw [status_concat_idle grace before rfl rfl rfl, Operation.effect]
      split <;> rfl
  | restore states => contradiction
  | decision | decisionAt | insert | remove | save =>
      rw [status_concat_idle grace before rfl rfl rfl]
      rfl

theorem running_concat_idle {id : String} {operation : Operation} (duration : Duration)
    (atInsertion : Option Instant) (before : List Operation)
    (noStart : operation.startTime? id = none) (noTick : operation.tick? = none) :
    running id duration atInsertion (before ++ [operation]) =
      running id duration atInsertion before := by
  rw [running, running, latestStart?_concat, noStart]
  cases latestStart? id atInsertion before with
  | none => rfl
  | some found => simp [ticksOf_concat, noTick]

theorem running_concat_synchronize (id : String) (duration : Duration)
    (atInsertion : Option Instant) (before : List Operation) (now : Instant) :
    running id duration atInsertion (before ++ [.synchronize now]) =
      ((running id duration atInsertion before).map (·.synchronize now)).filter
        (!·.isFinished) := by
  rw [running, running, latestStart?_concat]
  cases latestStart? id atInsertion before with
  | none => rfl
  | some found =>
      simp only [Operation.startTime?, Option.map_some, ticksOf_concat, Operation.tick?,
        Option.toList_some, Countdown.running?_concat]

theorem running_concat_start (id : String) (duration : Duration)
    (atInsertion : Option Instant) (before : List Operation) (now : Instant) :
    running id duration atInsertion (before ++ [.start id now]) = some ⟨duration, now⟩ := by
  rw [running, latestStart?_concat]
  simp [Operation.startTime?, ticksOf]

theorem effect_running (id : String) (duration : Duration) (atInsertion : Option Instant)
    (before : List Operation) (operation : Operation)
    (noRestore : operation.isRestore = false) :
    operation.effect id (.timed ⟨duration, running id duration atInsertion before⟩) =
      .timed ⟨duration, running id duration atInsertion (before ++ [operation])⟩ := by
  cases operation with
  | synchronize now =>
      rw [running_concat_synchronize]
      rfl
  | start target now =>
      by_cases same : target = id
      · subst same
        rw [running_concat_start, Operation.effect, if_pos rfl]
        rfl
      · have other : (Operation.start target now).startTime? id = none := if_neg same
        rw [running_concat_idle duration atInsertion before other rfl, Operation.effect,
          if_neg same]
  | plead target now =>
      rw [running_concat_idle duration atInsertion before rfl rfl, Operation.effect]
      split <;> rfl
  | rearm target =>
      rw [running_concat_idle duration atInsertion before rfl rfl, Operation.effect]
      split <;> rfl
  | restore states => contradiction
  | decision | decisionAt | insert | remove | save =>
      rw [running_concat_idle duration atInsertion before rfl rfl]
      rfl

theorem rule_push (id : String) (life : Lifetime) (operation : Operation)
    (noRestore : operation.isRestore = false) :
    (life.push operation).rule id =
      { life.rule id with protector := operation.effect id (life.protector id) } := by
  obtain ⟨⟨policyId, label, activator, protector⟩, inserted, before⟩ := life
  cases protector with
  | timed duration startImmediately =>
      simp only [rule, Lifetime.protector, push, effect_running _ _ _ _ _ noRestore]
  | plea grace => simp only [rule, Lifetime.protector, push, effect_status _ _ _ _ noRestore]

theorem rule_begin (id : String) (policy : RulePolicy) (now : Instant) :
    rule id ⟨policy, now, []⟩ = policy.toRule now := by
  obtain ⟨policyId, label, activator, protector⟩ := policy
  cases protector with
  | timed duration startImmediately =>
      cases startImmediately <;>
        simp [rule, Lifetime.protector, running, latestStart?, sinceLast?, ticksOf,
          RulePolicy.toRule, RulePolicy.initialProtector, TimedProtector.idle,
          TimedProtector.start]
  | plea grace => rfl

theorem effect_of_not_concerns {id : String} {operation : Operation}
    (apart : operation.concerns id = false) (noRestore : operation.isRestore = false)
    (protector : Protector) : operation.effect id protector = protector := by
  cases operation with
  | synchronize now => contradiction
  | plead target now | rearm target | start target now =>
      have other : target ≠ id := by
        rintro rfl
        simp [Operation.concerns, Operation.tick?, Operation.pleaTime?, Operation.startTime?,
          Operation.rearm?] at apart
      exact if_neg other
  | restore states => contradiction
  | decision | decisionAt | insert | remove | save => rfl

theorem ruleAfter_advance (id : String) (life : Option Lifetime)
    (entry : Operation × Except Failure Answer) (noRestore : entry.1.isRestore = false) :
    Engine.ruleAfter id (life.map (·.rule id)) entry = (advance id life entry).map (·.rule id) := by
  have acts (operation : Operation) (silent : operation.isRestore = false) :
      (life.map (·.rule id)).map
        (fun rule => { rule with protector := operation.effect id rule.protector }) =
      (life.map fun life => if operation.concerns id then life.push operation else life).map
        (·.rule id) := by
    cases life with
    | none => rfl
    | some life =>
        cases concerned : operation.concerns id with
        | true =>
            simp only [Option.map_some, if_true, rule_push id life operation silent]
            rfl
        | false =>
            simp only [Option.map_some, Bool.false_eq_true, if_false,
              effect_of_not_concerns concerned silent]
  obtain ⟨operation, answer⟩ := entry
  cases operation with
  | insert policy now =>
      cases answer with
      | error reason => exact acts _ rfl
      | ok answer =>
          by_cases same : policy.id = id <;>
            simp [Engine.ruleAfter, advance, same, rule_begin]
  | remove target =>
      cases answer with
      | error reason => exact acts _ rfl
      | ok answer =>
          by_cases same : target = id <;> simp [Engine.ruleAfter, advance, same]
  | restore states => contradiction
  | synchronize | decision | decisionAt | plead | rearm | start | save => exact acts _ rfl

theorem foldl_ruleAfter {id : String} {entries : List (Operation × Except Failure Answer)}
    (noRestore : ∀ entry ∈ entries, entry.1.isRestore = false) (life : Option Lifetime) :
    entries.foldl (Engine.ruleAfter id) (life.map (·.rule id)) =
      (entries.foldl (advance id) life).map (·.rule id) := by
  induction entries generalizing life with
  | nil => rfl
  | cons entry rest ih =>
      rw [List.foldl_cons, ruleAfter_advance id life entry (noRestore entry (.head _)),
        ih fun later member => noRestore later (.tail _ member), List.foldl_cons]

end Lifetime

namespace Engine

variable {zone : Zone} {policy : Policy} {saved : Option AllowanceTracker}
  {begin : Instant} {engine : Engine}

/-- The rules after a `run` without `restore`, in closed form.  Which there are follows from the
successful `insert`s and `remove`s; the protector of each is read off the operations since its
latest insertion, without a state carried along: off the first `plead` since it was last armed, off
the latest `start`, and off the times of `synchronize` since then. -/
theorem rule?_eq_of_lifetime (built : ofPolicy zone policy saved begin = .ok engine)
    (operations : List Operation)
    (noRestore : ∀ operation ∈ operations, operation.isRestore = false) (id : String) :
    (engine.run zone operations).1.rule? id =
      (Lifetime.of? zone policy begin engine operations id).map (·.rule id) := by
  obtain ⟨addable, _, rfl⟩ := ofPolicy_eq_ok_iff.mp built
  have start : (initial zone policy saved begin).rule? id =
      ((policy.rule? id).map fun rule => (⟨rule, begin, []⟩ : Lifetime)).map (·.rule id) := by
    rw [rule?_initial addable.distinct]
    cases policy.rule? id with
    | none => rfl
    | some rule => exact congrArg some (Lifetime.rule_begin id rule begin).symm
  have traced : ∀ entry ∈ (initial zone policy saved begin).trace zone operations,
      entry.1.isRestore = false := fun entry member =>
    noRestore entry.1 (List.of_mem_zip member).1
  rw [rule?_run, start, Lifetime.foldl_ruleAfter traced]
  rfl

/-- A second `plead` and a clock that goes back do not prolong the grace. -/
theorem bedtime_deactivating :
    ((initial .utc .evening none .epoch).run .utc
      [.plead "bedtime" ⟨2000, by decide, by decide⟩, .synchronize ⟨5000, by decide, by decide⟩,
        .plead "bedtime" ⟨6000, by decide, by decide⟩, .start "focus" .epoch,
        .synchronize ⟨4000, by decide, by decide⟩,
        .synchronize ⟨9000, by decide, by decide⟩]).1.rule? "bedtime" =
      some ⟨.always, .plea ⟨⟨1800000, by decide⟩,
        .deactivating ⟨⟨1792000, by decide⟩, ⟨9000, by decide, by decide⟩⟩⟩⟩ :=
  (rule?_eq_of_lifetime (ofPolicy_evening .utc .epoch) _ (by decide) "bedtime").trans
    (by decide)

end Engine

end Curfew
