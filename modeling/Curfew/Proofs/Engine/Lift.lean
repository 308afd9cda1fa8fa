import Curfew.Proofs.Engine.Allowance
import Curfew.Proofs.Protector
import Mathlib.Data.List.Count
import Mathlib.Data.List.Nodup

namespace Curfew

/-! The end of a protection is told once.  A rule that no longer protects has to be made to
protect again before its protection can end once more, and no synchronization does that. -/

def SavedState.protects : SavedState → Bool
  | .running _ | .activated | .deactivating _ => true
  | .idle | .deactivated => false

theorem SavedState.protects_of_apply {state : SavedState} {before after : Protector}
    (applied : state.apply before = .ok after) (protects : after.protects = true) :
    state.protects = true := by
  cases before with
  | timed timed =>
      cases state with
      | running saved => rfl
      | idle =>
          cases applied
          contradiction
      | activated | deactivating | deactivated => contradiction
  | plea plea =>
      cases state with
      | activated | deactivating => rfl
      | deactivated =>
          cases applied
          contradiction
      | idle | running => contradiction

theorem SavedState.apply_eq_ok_of_restored {state : SavedState} {protector : Protector}
    (off : protector.protects = false) (on : (protector.restored state).protects = true) :
    state.apply protector = .ok (protector.restored state) := by
  unfold Protector.restored at on ⊢
  cases applied : state.apply protector with
  | error reason =>
      rw [applied] at on
      cases off.symm.trans on
  | ok restored => rfl

theorem Protector.protects_plead (protector : Protector) (now : Instant) :
    (protector.mapPlea fun plea => (plea.plead now).1).protects = protector.protects := by
  cases protector with
  | timed timed => rfl
  | plea plea =>
      obtain ⟨grace, status⟩ := plea
      cases status <;> rfl

namespace Engine

variable {zone : Zone} {engine : Engine} {id : String} {operation : Operation} {now : Instant}

/-- There is a rule with the id and it protects. -/
def protects (engine : Engine) (id : String) : Bool := (engine.rule? id).any Rule.protects

theorem protects_eq_false_of_none (absent : engine.rule? id = none) :
    engine.protects id = false := by
  rw [protects, absent]
  rfl

theorem pairwise_lifted (engine : Engine) (now : Instant) :
    (engine.lifted now).Pairwise (· < ·) :=
  Table.pairwise_keys_filter ..

theorem mem_lifted_iff :
    id ∈ engine.lifted now ↔
      engine.protects id = true ∧ (engine.synchronize zone now).1.protects id = false := by
  rw [lifted, Table.mem_keys_filter_iff, protects, protects, rule?_synchronize]
  change (∃ rule, engine.rule? id = some rule ∧ _) ↔ _
  cases engine.rule? id with
  | none => simp
  | some rule => simp [Rule.synchronize]

theorem count_lifted {events : List Event} (told : (engine.synchronize zone now).2 = .ok events)
    (id : String) : events.count (.lifted id) = (engine.lifted now).count id := by
  have kept : events.count (.lifted id) =
      (events.filter fun event => !event.concernsAllowance).count (.lifted id) :=
    (List.count_filter rfl).symm
  rw [kept, filter_lifted_synchronize told]
  exact List.count_map_of_injective _ _ (fun _ _ same => Event.lifted.inj same) id

theorem lifted_mem_synchronize_iff {events : List Event}
    (told : (engine.synchronize zone now).2 = .ok events) :
    .lifted id ∈ events ↔
      engine.protects id = true ∧ (engine.synchronize zone now).1.protects id = false := by
  rw [← mem_lifted_iff, ← List.count_pos_iff, count_lifted told, List.count_pos_iff]

/-- An operation that makes a rule protect: a `start`, `rearm` or `insert` of it that succeeds, or a
`restore` that applies a protecting state to it. -/
inductive Revives (zone : Zone) (engine : Engine) (id : String) : Operation → Prop where
  | start {now : Instant} (started : engine.answer zone (.start id now) = .ok .started) :
      Revives zone engine id (.start id now)
  | rearm {outcome : RearmOutcome}
      (rearmed : engine.answer zone (.rearm id) = .ok (.rearm outcome)) :
      Revives zone engine id (.rearm id)
  | restore {states : SavedStates} {state : SavedState} {rule : Rule} {protector : Protector}
      (found : engine.rule? id = some rule) (saved : states.get? id = some state)
      (applied : state.apply rule.protector = .ok protector) (active : state.protects = true) :
      Revives zone engine id (.restore states)
  | insert {policy : RulePolicy} {now : Instant} (named : policy.id = id)
      (inserted : engine.answer zone (.insert policy now) = .ok .inserted) :
      Revives zone engine id (.insert policy now)

theorem revives_of_rearm {rule : Rule} (found : engine.rule? id = some rule)
    (off : rule.protector.protects = false)
    (on : (rule.protector.mapPlea fun plea => plea.rearm.1).protects = true) :
    Revives zone engine id (.rearm id) := by
  obtain ⟨activator, protector⟩ := rule
  cases protector with
  | timed timed => cases off.symm.trans on
  | plea plea =>
      have rearmed : engine.answer zone (.rearm id) = .ok (.rearm plea.rearm.2) := by
        simp [answer, perform, rearm, act, found, Protector.onPlea, Except.map]
      exact .rearm rearmed

theorem revives_of_start {rule : Rule} (found : engine.rule? id = some rule)
    (off : rule.protector.protects = false)
    (on : (rule.protector.mapTimed (·.start now)).protects = true) :
    Revives zone engine id (.start id now) := by
  obtain ⟨activator, protector⟩ := rule
  cases protector with
  | timed timed =>
      have started : engine.answer zone (.start id now) = .ok .started := by
        simp [answer, perform, start, act, found, Protector.onTimed, Except.map]
      exact .start started
  | plea plea => cases off.symm.trans on

theorem revives_of_effect {rule : Rule} (found : engine.rule? id = some rule)
    (off : rule.protector.protects = false)
    (on : (operation.effect id rule.protector).protects = true) :
    Revives zone engine id operation := by
  cases operation with
  | synchronize now =>
      rw [Protector.protects_of_synchronize on] at off
      contradiction
  | decision | decisionAt | insert | remove | save => cases off.symm.trans on
  | plead target now =>
      simp only [Operation.effect] at on
      split at on
      · cases off.symm.trans ((rule.protector.protects_plead now).symm.trans on)
      · cases off.symm.trans on
  | rearm target =>
      simp only [Operation.effect] at on
      split at on
      · rename_i same
        subst same
        exact revives_of_rearm found off on
      · cases off.symm.trans on
  | start target now =>
      simp only [Operation.effect] at on
      split at on
      · rename_i same
        subst same
        exact revives_of_start found off on
      · cases off.symm.trans on
  | restore states =>
      simp only [Operation.effect] at on
      cases saved : states.get? id with
      | none =>
          rw [saved] at on
          cases off.symm.trans on
      | some state =>
          simp only [saved, Option.map_some, Option.getD_some] at on
          have applied := SavedState.apply_eq_ok_of_restored off on
          exact .restore found saved applied (SavedState.protects_of_apply applied on)

theorem inserted_of_answer {policy : RulePolicy} {answer : Answer}
    (answered : engine.answer zone (.insert policy now) = .ok answer) :
    engine.rule? policy.id = none ∧ answer = .inserted := by
  rw [answer_insert_eq] at answered
  rcases engine.rules.insert_cases policy.id (policy.toRule now) with
    ⟨_, _, refused⟩ | ⟨_, _, refused⟩ | ⟨absent, _, inserted⟩
  · simp [refused, Except.map, Except.mapError] at answered
  · simp [refused, Except.map, Except.mapError] at answered
  · rw [inserted] at answered
    exact ⟨absent, (Except.ok.inj answered).symm⟩

theorem revives_of_protects (before : engine.protects id = false)
    (after : (engine.next zone operation).protects id = true) :
    Revives zone engine id operation := by
  have reached := rule?_next zone engine operation id
  -- Only an insertion or a removal does more than act on a protector that is there.
  have acts (kept : ruleAfter id (engine.rule? id) (operation, engine.answer zone operation) =
      (engine.rule? id).map fun rule =>
        { rule with protector := operation.effect id rule.protector }) :
      Revives zone engine id operation := by
    rw [kept] at reached
    cases found : engine.rule? id with
    | none =>
        rw [found] at reached
        cases (protects_eq_false_of_none reached).symm.trans after
    | some rule =>
        rw [found] at reached
        rw [protects, found] at before
        rw [protects, reached] at after
        exact revives_of_effect found before after
  cases answered : engine.answer zone operation with
  | error reason =>
      rw [answered] at acts
      cases operation <;> exact acts rfl
  | ok answer =>
      rw [answered] at acts reached
      cases operation with
      | insert policy now =>
          by_cases same : policy.id = id
          · exact .insert same ((inserted_of_answer answered).2 ▸ answered)
          · rw [ruleAfter, if_neg same] at reached
            rw [protects, reached] at after
            cases before.symm.trans after
      | remove target =>
          rw [ruleAfter] at reached
          rw [protects, reached] at after
          split at after
          · contradiction
          · cases before.symm.trans after
      | synchronize | decision | decisionAt | plead | rearm | start | save | restore =>
          exact acts rfl

/-- What holds after a run and did not hold before it was brought about by one of the operations. -/
theorem exists_operation_of_run {zone : Zone} {engine : Engine} {operations : List Operation}
    (holds : Engine → Prop) (before : ¬ holds engine)
    (after : holds (engine.run zone operations).1) :
    ∃ earlier operation later, operations = earlier ++ operation :: later ∧
      ¬ holds (engine.run zone earlier).1 ∧
        holds ((engine.run zone earlier).1.next zone operation) := by
  induction operations using List.reverseRecOn with
  | nil => exact absurd after before
  | append_singleton earlier operation ih =>
      by_cases held : holds (engine.run zone earlier).1
      · obtain ⟨first, cause, between, rfl, change⟩ := ih held
        exact ⟨first, cause, between ++ [operation], by simp, change⟩
      · rw [run_concat] at after
        exact ⟨earlier, operation, [], rfl, held, after⟩

theorem removed_of_next {zone : Zone} {engine : Engine} {rule : Rule}
    (present : engine.rule? id = some rule)
    (gone : (engine.next zone operation).rule? id = none) :
    operation = .remove id ∧ engine.answer zone (.remove id) = .ok (.removed rule) := by
  rw [rule?_next, present] at gone
  cases operation with
  | remove target =>
      by_cases same : target = id
      · subst same
        exact ⟨rfl, by simp [answer_remove, present]⟩
      · cases answered : engine.answer zone (.remove target) <;>
          simp [answered, ruleAfter, same] at gone
  | insert policy now =>
      cases answered : engine.answer zone (.insert policy now) with
      | error reason => simp [answered, ruleAfter] at gone
      | ok answer =>
          rw [answered, ruleAfter] at gone
          split at gone <;> cases gone
  | synchronize | decision | decisionAt | plead | rearm | start | save | restore => cases gone

theorem removed_of_run {zone : Zone} {engine : Engine} {operations : List Operation} {rule : Rule}
    (present : engine.rule? id = some rule)
    (absent : (engine.run zone operations).1.rule? id = none) :
    ∃ earlier later rule, operations = earlier ++ .remove id :: later ∧
      (engine.run zone earlier).1.answer zone (.remove id) = .ok (.removed rule) := by
  obtain ⟨earlier, operation, later, whole, there, gone⟩ :=
    exists_operation_of_run (fun engine => engine.rule? id = none) (by simp [present])
      absent
  obtain ⟨last, present⟩ := Option.ne_none_iff_exists'.mp there
  obtain ⟨rfl, answered⟩ := removed_of_next present gone
  exact ⟨earlier, later, last, whole, answered⟩

/-- An operation that makes a rule protect which did not before it, after `earlier` ones.  If it is
an `insert`, the rule was removed before. -/
structure RevivedBy (zone : Zone) (engine : Engine) (id : String) (earlier : List Operation)
    (operation : Operation) : Prop where
  revives : Revives zone (engine.run zone earlier).1 id operation
  before : (engine.run zone earlier).1.protects id = false
  after : ((engine.run zone earlier).1.next zone operation).protects id = true
  removed : ∀ policy now, operation = .insert policy now →
    ∃ first between rule, earlier = first ++ .remove id :: between ∧
      (engine.run zone first).1.answer zone (.remove id) = .ok (.removed rule)

/-- One of the operations makes the rule protect again. -/
def Revived (zone : Zone) (engine : Engine) (id : String) (operations : List Operation) : Prop :=
  ∃ earlier operation later, operations = earlier ++ operation :: later ∧
    RevivedBy zone engine id earlier operation

theorem revived_of_protects {operations : List Operation} {rule : Rule}
    (present : engine.rule? id = some rule) (before : engine.protects id = false)
    (after : (engine.run zone operations).1.protects id = true) :
    Revived zone engine id operations := by
  obtain ⟨earlier, operation, later, whole, off, on⟩ :=
    exists_operation_of_run (fun engine => engine.protects id = true) (by simp [before])
      after
  have off : (engine.run zone earlier).1.protects id = false := by simpa using off
  have revives := revives_of_protects off on
  refine ⟨earlier, operation, later, whole, revives, off, on, ?_⟩
  rintro policy now rfl
  cases revives with
  | insert named inserted =>
      exact removed_of_run present (named ▸ (inserted_of_answer inserted).1)

/-- Runs of `synchronize` alone never make a rule protect. -/
theorem protects_run_ticks (zone : Zone) (before : engine.protects id = false)
    (ticks : List Instant) :
    (engine.run zone (ticks.map .synchronize)).1.protects id = false := by
  refine Bool.eq_false_iff.mpr fun after => ?_
  obtain ⟨earlier, operation, later, whole, off, on⟩ :=
    exists_operation_of_run (fun engine => engine.protects id = true) (by simp [before])
      after
  have member : operation ∈ ticks.map Operation.synchronize := by simp [whole]
  obtain ⟨now, _, rfl⟩ := List.mem_map.mp member
  cases revives_of_protects (by simpa using off) on

/-- Where `synchronize` tells that a rule is lifted it tells so once.  After any further run the
rule does not protect, and no `synchronize` tells it lifted, unless one of the operations in between
is `Revived` of it.  Runs of `synchronize` alone, from any engine, never make a rule protect. -/
theorem lifted_once {events : List Event} (told : (engine.synchronize zone now).2 = .ok events)
    (ended : .lifted id ∈ events) (later : List Operation) :
    events.count (.lifted id) = 1 ∧
      (¬ Revived zone (engine.synchronize zone now).1 id later →
        ((engine.synchronize zone now).1.run zone later).1.protects id = false) ∧
      (∀ again eventsAgain,
        (((engine.synchronize zone now).1.run zone later).1.synchronize zone again).2 =
          .ok eventsAgain →
        .lifted id ∈ eventsAgain → Revived zone (engine.synchronize zone now).1 id later) ∧
      ∀ (other : Engine) (ticks : List Instant), other.protects id = false →
        (other.run zone (ticks.map .synchronize)).1.protects id = false := by
  obtain ⟨on, off⟩ := (lifted_mem_synchronize_iff told).mp ended
  obtain ⟨rule, present⟩ : ∃ rule, (engine.synchronize zone now).1.rule? id = some rule := by
    rw [rule?_synchronize]
    cases found : engine.rule? id with
    | none => cases (protects_eq_false_of_none found).symm.trans on
    | some rule => exact ⟨_, rfl⟩
  have revived (after : ((engine.synchronize zone now).1.run zone later).1.protects id = true) :
      Revived zone (engine.synchronize zone now).1 id later := revived_of_protects present off after
  refine ⟨?_, fun never => ?_, fun again eventsAgain toldAgain endedAgain => ?_,
    fun other ticks still => ?_⟩
  · rw [count_lifted told]
    have distinct : (engine.lifted now).Nodup :=
      (pairwise_lifted engine now).imp fun less => Entries.ne_of_lt less
    exact List.count_eq_one_of_mem distinct (mem_lifted_iff.mpr ⟨on, off⟩)
  · exact Bool.eq_false_iff.mpr fun after => never (revived after)
  · exact revived ((lifted_mem_synchronize_iff toldAgain).mp endedAgain).1
  · exact protects_run_ticks zone still ticks

/-- A `rearm` and a `plead` bring about a second lift. -/
theorem bedtime_lifted_again :
    (((initial .utc .evening none .epoch).run .utc
        [.plead "bedtime" .epoch]).1.synchronize .utc ⟨1800000, by decide, by decide⟩).2 =
        .ok [.lifted "bedtime"] ∧
      Revived .utc (((initial .utc .evening none .epoch).run .utc
        [.plead "bedtime" .epoch]).1.synchronize .utc ⟨1800000, by decide, by decide⟩).1 "bedtime"
        [.rearm "bedtime", .plead "bedtime" ⟨1800000, by decide, by decide⟩] := by
  have told : (((initial .utc .evening none .epoch).run .utc
      [.plead "bedtime" .epoch]).1.synchronize .utc ⟨1800000, by decide, by decide⟩).2 =
      .ok [.lifted "bedtime"] := by
    decide
  obtain ⟨_, _, revived, _⟩ := lifted_once told (List.mem_singleton_self _)
    [.rearm "bedtime", .plead "bedtime" ⟨1800000, by decide, by decide⟩]
  exact ⟨told, revived ⟨3600000, by decide, by decide⟩ [.lifted "bedtime"] (by decide)
    (List.mem_singleton_self _)⟩

end Engine

end Curfew
