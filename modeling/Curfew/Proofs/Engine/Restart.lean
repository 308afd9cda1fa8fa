import Curfew.Proofs.Allowance.Text
import Curfew.Proofs.Engine.WellFormed
import Curfew.Proofs.Record

namespace Curfew

/-! A restart in between is not noticed by the rules.  What is saved of an engine is read
back, and an engine that the same policy begins with takes it up. -/

theorem RulePolicy.readable_toRule (policy : RulePolicy) {now : Instant}
    (readable : now.Readable) : (policy.toRule now).protector.Readable := by
  obtain ⟨id, label, activator, protector⟩ := policy
  cases protector with
  | timed duration startImmediately =>
      cases startImmediately with
      | true => exact Protector.readable_of_full readable rfl
      | false => exact Protector.readable_of_idle rfl
  | plea grace => exact Protector.readable_of_idle rfl

theorem Rule.Follows.apply_capture {rule fresh : Rule} {policy : RulePolicy}
    (follows : rule.Follows policy) (freshFollows : fresh.Follows policy)
    (positive : 0 < policy.protector.duration.milliseconds)
    (readable : rule.protector.Readable) :
    (SavedState.capture rule.protector).apply fresh.protector = .ok rule.protector := by
  rw [← follows.duration] at positive
  exact SavedState.apply_capture follows.sound positive readable
    (freshFollows.kind.trans follows.kind.symm)
    (freshFollows.duration.trans follows.duration.symm)

namespace AllowancePolicy

variable {zone : Zone} {terms : AllowancePolicy} {tracker : AllowanceTracker} {now : Instant}

theorem initialTracker_of_within (within : tracker.Within terms)
    (dated : tracker.Dated zone terms.resetDaily now) :
    terms.initialTracker zone now (some tracker) =
      if terms.resetDaily && zone.localDate tracker.previous != zone.localDate now then
        .full tracker.allowance now
      else ⟨tracker.allowance, tracker.remaining, now⟩ := by
  have bounded : ¬ tracker.remaining.milliseconds > tracker.allowance.milliseconds := by
    have fits := within.bounded
    rw [within.allowance]
    omega
  have same : ¬ tracker.allowance ≠ terms.daily := fun other => other within.allowance
  rw [initialTracker, initialTracker?, if_neg bounded, if_neg same,
    AllowanceTracker.isStale?_of_dated dated]
  rfl

end AllowancePolicy

namespace Engine

variable {zone : Zone} {policy : Policy} {saved : Option AllowanceTracker}
  {begin now : Instant} {engine : Engine}

def Operation.keepsRules : Operation → Bool
  | .insert .. | .remove _ => false
  | _ => true

theorem ruleAfter_of_keepsRules {operation : Operation} (keeps : operation.keepsRules = true)
    (id : String) (rule : Option Rule) (answer : Except Failure Answer) :
    ruleAfter id rule (operation, answer) =
      rule.map fun rule => { rule with protector := operation.effect id rule.protector } := by
  cases operation with
  | insert policy now => contradiction
  | remove target => contradiction
  | synchronize | decision | decisionAt | plead | rearm | start | save | restore => rfl

/-- The invariant of a run without `insert` and `remove`: the engine has the rules and the allowance
of its policy, within their bounds. -/
structure Restartable (policy : Policy) (engine : Engine) : Prop where
  rules : ∀ id, Option.Rel Rule.Follows (engine.rule? id) (policy.rule? id)
  allowance : Option.Rel AllowanceTracker.Within engine.allowance policy.allowance
  resetsDaily : engine.resetsDaily = (policy.allowance.map (·.resetDaily)).getD false

theorem restartable_initial
    (addable : Addable policy.rules (.withCapacity policy.daemon.maxRules)) :
    (initial zone policy saved begin).Restartable policy where
  rules := fun id => by
    have follows := (@wellFormed_initial zone policy saved begin addable).rules id
    rwa [Option.map_map, Function.comp_def, Option.map_id'] at follows
  allowance := (wellFormed_initial addable).allowance
  resetsDaily := rfl

theorem Restartable.next (restartable : engine.Restartable policy) (zone : Zone)
    {operation : Operation} (keeps : operation.keepsRules = true) :
    (engine.next zone operation).Restartable policy where
  rules := fun id => by
    rw [rule?_next, ruleAfter_of_keepsRules keeps]
    exact rel_map_left (restartable.rules id) fun rule _ follows =>
      follows.move (move_effect id rule.protector operation)
  allowance := rel_allowance_next restartable.allowance fun _ _ _ _ within =>
    within.synchronize ..
  resetsDaily := (next_settings zone engine operation).1.trans restartable.resetsDaily

theorem Restartable.run (restartable : engine.Restartable policy) (zone : Zone)
    {operations : List Operation}
    (keeps : ∀ operation ∈ operations, operation.keepsRules = true) :
    (engine.run zone operations).1.Restartable policy := by
  induction operations generalizing engine with
  | nil => exact restartable
  | cons operation rest ih =>
      rw [run_cons]
      exact ih (restartable.next zone (keeps operation (.head _))) fun later member =>
        keeps later (.tail _ member)

/-- Every instant that is saved of the engine is read back. -/
structure Readable (engine : Engine) : Prop where
  allowance : ∀ tracker ∈ engine.allowance, tracker.previous.Readable
  rules : ∀ id rule, engine.rule? id = some rule → rule.protector.Readable

theorem readable_initial (distinct : (policy.rules.map (·.id)).Nodup) (readable : begin.Readable) :
    (initial zone policy saved begin).Readable where
  allowance tracker held := by
    obtain ⟨terms, _, rfl⟩ := Option.map_eq_some_iff.mp held
    rwa [(terms.initialTracker_sound zone begin saved).2.1]
  rules id rule found := by
    rw [rule?_initial distinct] at found
    obtain ⟨rulePolicy, _, rfl⟩ := Option.map_eq_some_iff.mp found
    exact rulePolicy.readable_toRule readable

theorem Readable.next (readable : engine.Readable) (zone : Zone) {operation : Operation}
    (keeps : operation.keepsRules = true) (told : ∀ now ∈ operation.instant?, now.Readable) :
    (engine.next zone operation).Readable where
  allowance := by
    cases tick : operation.tick? with
    | none =>
        obtain ⟨_, after⟩ := next_of_no_tick zone engine tick
        rw [after]
        exact readable.allowance
    | some now =>
        obtain rfl := Operation.eq_synchronize_of_tick? tick
        intro tracker held
        rw [next_synchronize, synchronize_allowance, Option.mem_def, Option.map_eq_some_iff] at held
        obtain ⟨before, given, rfl⟩ := held
        by_cases dated : before.Dated zone engine.resetsDaily now
        · rw [previous_synchronizeTracker dated]
          exact told now rfl
        · rw [synchronizeTracker_of_undated dated]
          exact readable.allowance before given
  rules id rule found := by
    rw [rule?_next, ruleAfter_of_keepsRules keeps] at found
    obtain ⟨before, present, rfl⟩ := Option.map_eq_some_iff.mp found
    exact (move_effect id before.protector operation).readable (readable.rules id before present)
      told

theorem Readable.run (readable : engine.Readable) (zone : Zone) {operations : List Operation}
    (keeps : ∀ operation ∈ operations, operation.keepsRules = true)
    (told : ∀ now ∈ operations.filterMap Operation.instant?, now.Readable) :
    (engine.run zone operations).1.Readable := by
  induction operations generalizing engine with
  | nil => exact readable
  | cons operation rest ih =>
      rw [run_cons]
      refine ih (readable.next zone (keeps operation (.head _)) fun now given => told now ?_)
        (fun later member => keeps later (.tail _ member)) fun now later => told now ?_
      · exact List.mem_filterMap.mpr ⟨operation, .head _, given⟩
      · obtain ⟨other, member, given⟩ := List.mem_filterMap.mp later
        exact List.mem_filterMap.mpr ⟨other, .tail _ member, given⟩

/-- Encodes the tracker and the protector states of an engine, decodes both texts, builds a new
engine of the policy by `ofPolicy` and restores the states in it.  There is no result if a text is
not read back. -/
def restart (zone : Zone) (policy : Policy) (engine : Engine) (now : Instant) :
    Option (Except Failure (Engine × Nat)) := do
  let tracker ← match engine.allowance with
    | none => some none
    | some tracker => (AllowanceTracker.ofText tracker.toText).toOption.map some
  let states ← SavedStates.ofText? engine.savedStates.toText
  some ((ofPolicy zone policy tracker now).map (·.restore states))

theorem get?_savedStates (engine : Engine) (id : String) :
    engine.savedStates.get? id =
      (engine.rule? id).map fun rule => SavedState.capture rule.protector :=
  Table.get?_map ..

theorem Restartable.allowance_cases (restartable : engine.Restartable policy) :
    (policy.allowance = none ∧ engine.allowance = none) ∨
      ∃ terms tracker, policy.allowance = some terms ∧ engine.allowance = some tracker ∧
        tracker.Within terms ∧ engine.resetsDaily = terms.resetDaily := by
  have related := restartable.allowance
  have daily := restartable.resetsDaily
  cases configured : policy.allowance with
  | none =>
      rw [configured] at related
      exact .inl ⟨rfl, eq_none_of_rel related⟩
  | some terms =>
      rw [configured] at related daily
      obtain ⟨tracker, held, within⟩ := exists_of_rel related
      exact .inr ⟨terms, tracker, rfl, held, within, daily⟩

theorem Restartable.lacksDate_iff (restartable : engine.Restartable policy) :
    policy.LacksDate zone engine.allowance now ↔ ¬ engine.Dated zone now := by
  unfold Policy.LacksDate Dated
  rcases restartable.allowance_cases with
    ⟨none, held⟩ | ⟨terms, tracker, some, held, within, daily⟩
  · simp [none, held]
  · simp [some, held, AllowancePolicy.lacksDate_iff_of_within within, daily]

theorem restart_of_unreadable {tracker : AllowanceTracker} (held : engine.allowance = some tracker)
    (unreadable : ¬ tracker.previous.Readable) : engine.restart zone policy now = none := by
  have refused : (AllowanceTracker.ofText tracker.toText).toOption = none := by
    cases read : AllowanceTracker.ofText tracker.toText with
    | error cause => rfl
    | ok other =>
        exact absurd (AllowanceTracker.ofText_toText_eq_ok_iff.mp read).2.2 unreadable
  simp [restart, held, refused]

theorem Restartable.restart_eq (restartable : engine.Restartable policy)
    (readable : ∀ tracker ∈ engine.allowance, tracker.previous.Readable) :
    engine.restart zone policy now =
      some ((ofPolicy zone policy engine.allowance now).map (·.restore engine.savedStates)) := by
  rcases restartable.allowance_cases with ⟨_, held⟩ | ⟨terms, tracker, _, held, within, _⟩
  · simp [restart, held, SavedStates.ofText?_toText]
  · have bounded : tracker.remaining.milliseconds ≤ tracker.allowance.milliseconds := by
      rw [within.allowance]
      exact within.bounded
    have read := AllowanceTracker.ofText_toText bounded (readable tracker held)
    simp [restart, held, read, SavedStates.ofText?_toText, Except.toOption]

theorem Restartable.restoreRule?_savedStates {id : String} {rule : Rule}
    (restartable : engine.Restartable policy) (distinct : (policy.rules.map (·.id)).Nodup)
    (positive : ∀ rule ∈ policy.rules, 0 < rule.protector.duration.milliseconds)
    (present : engine.rule? id = some rule) :
    ∃ fresh, (initial zone policy saved now).rule? id = some fresh ∧
      (rule.protector.Readable → restoreRule? engine.savedStates id fresh = some rule) ∧
      (¬ rule.protector.Readable → restoreRule? engine.savedStates id fresh = none) := by
  have related := restartable.rules id
  rw [present] at related
  cases configured : policy.rule? id with
  | none =>
      rw [configured] at related
      cases related
  | some rulePolicy =>
      rw [configured] at related
      obtain ⟨other, same, follows⟩ := exists_of_rel related
      cases same
      have freshFollows := Rule.follows_toRule rulePolicy now
      refine ⟨rulePolicy.toRule now, ?_, fun readable => ?_, fun unreadable => ?_⟩
      · rw [rule?_initial distinct, configured]
        rfl
      · have applied := follows.apply_capture freshFollows
          (positive rulePolicy (List.mem_of_find?_eq_some configured)) readable
        simp only [restoreRule?, get?_savedStates, present, Option.map_some, applied]
        obtain ⟨activator, protector⟩ := rule
        cases freshFollows.activator.trans follows.activator.symm
        rfl
      · have refused := @SavedState.apply_capture_ne_ok _ (rulePolicy.toRule now).protector
          unreadable
        simp only [restoreRule?, get?_savedStates, present, Option.map_some]
        split
        · rename_i restored applied
          exact absurd applied (refused restored)
        · rfl

theorem rule?_restore_eq (engine : Engine) (states : SavedStates) (id : String) :
    (engine.restore states).1.rule? id =
      (engine.rule? id).map fun rule => (restoreRule? states id rule).getD rule :=
  Table.get?_map ..

section Restored

variable (restartable : engine.Restartable policy)
  (addable : Addable policy.rules (.withCapacity policy.daemon.maxRules))
  (positive : ∀ rule ∈ policy.rules, 0 < rule.protector.duration.milliseconds)

include restartable addable positive

theorem Restartable.rule?_restore_of_readable {id : String} {rule : Rule}
    (present : engine.rule? id = some rule) (readable : rule.protector.Readable) :
    ((initial zone policy saved now).restore engine.savedStates).1.rule? id = some rule := by
  obtain ⟨fresh, found, taken, _⟩ :=
    restartable.restoreRule?_savedStates addable.distinct positive present
  rw [rule?_restore_eq, found, Option.map_some, taken readable]
  rfl

theorem Restartable.rule?_restore_of_unreadable {id : String} {rule : Rule}
    (present : engine.rule? id = some rule) (unreadable : ¬ rule.protector.Readable) :
    ((initial zone policy saved now).restore engine.savedStates).1.rule? id =
      (policy.rule? id).map (·.toRule now) := by
  obtain ⟨fresh, found, _, refused⟩ :=
    restartable.restoreRule?_savedStates addable.distinct positive present
  rw [rule?_restore_eq, found, Option.map_some, refused unreadable, ← rule?_initial
    addable.distinct, found]
  rfl

variable (readable : ∀ id rule, engine.rule? id = some rule → rule.protector.Readable)

include readable

theorem Restartable.rules_restore :
    ((initial zone policy saved now).restore engine.savedStates).1.rules.rules =
      engine.rules.rules := by
  refine Table.ext_get? fun id => ?_
  change ((initial zone policy saved now).restore engine.savedStates).1.rule? id = engine.rule? id
  cases present : engine.rule? id with
  | some rule =>
      exact restartable.rule?_restore_of_readable addable positive present
        (readable id rule present)
  | none =>
      have related := restartable.rules id
      rw [present] at related
      have absent : policy.rule? id = none := by
        generalize policy.rule? id = configured at related ⊢
        cases related
        rfl
      rw [rule?_restore_eq, rule?_initial addable.distinct, absent]
      rfl

theorem Restartable.count_restore :
    ((initial zone policy saved now).restore engine.savedStates).2 = policy.rules.length := by
  -- A rule that is there at the beginning has stayed there and has been saved.
  have all : ∀ entry ∈ (initial zone policy saved now).rules.rules.entries,
      (restoreRule? engine.savedStates entry.1 entry.2).isSome = true := by
    intro entry member
    have there : (initial zone policy saved now).rule? entry.1 = some entry.2 :=
      Table.get?_eq_some_iff.mpr member
    obtain ⟨rulePolicy, configured, _⟩ : ∃ rulePolicy, policy.rule? entry.1 = some rulePolicy ∧
        rulePolicy.toRule now = entry.2 := by
      rw [rule?_initial addable.distinct] at there
      exact Option.map_eq_some_iff.mp there
    have related := restartable.rules entry.1
    rw [configured] at related
    obtain ⟨rule, present, _⟩ := exists_of_rel related
    obtain ⟨fresh, found, taken, _⟩ :=
      restartable.restoreRule?_savedStates addable.distinct positive present
    cases found.symm.trans there
    rw [taken (readable _ rule present)]
    rfl
  change List.countP _ _ = _
  rw [List.countP_eq_length.mpr all]
  exact (size_addAll addable).trans (Nat.zero_add _)

end Restored

theorem Restartable.initial_allowance (restartable : engine.Restartable policy)
    (dated : engine.Dated zone now) :
    (initial zone policy engine.allowance now).allowance =
      engine.allowance.map fun tracker =>
        if engine.resetsDaily && zone.localDate tracker.previous != zone.localDate now then
          .full tracker.allowance now
        else ⟨tracker.allowance, tracker.remaining, now⟩ := by
  rcases restartable.allowance_cases with
    ⟨none, held⟩ | ⟨terms, tracker, some, held, within, daily⟩
  · simp [initial, none, held]
  · have there := dated tracker held
    rw [daily] at there
    simp [initial, some, held, daily, AllowancePolicy.initialTracker_of_within within there]

theorem filter_lifted_congr {other : Engine} {later : Instant} (rules : other.rules = engine.rules)
    (dated : other.Dated zone later ↔ engine.Dated zone later) :
    ((other.synchronize zone later).2.map (List.filter fun event => !event.concernsAllowance)) =
      (engine.synchronize zone later).2.map
        (List.filter fun event => !event.concernsAllowance) := by
  have lifted : other.lifted later = engine.lifted later := by rw [Engine.lifted, Engine.lifted, rules]
  by_cases there : engine.Dated zone later
  · obtain ⟨events, told⟩ := exists_events there
    obtain ⟨others, toldToo⟩ := exists_events (dated.mpr there)
    rw [told, toldToo]
    refine congrArg Except.ok ?_
    rw [filter_lifted_synchronize told, filter_lifted_synchronize toldToo, lifted]
  · rw [synchronize_of_undated there, synchronize_of_undated (mt dated.mp there)]

theorem dated_of_resumed {after : Engine} {later : Instant} (dated : engine.Dated zone now)
    (daily : after.resetsDaily = engine.resetsDaily)
    (resumed : after.allowance = engine.allowance.map fun tracker =>
      if engine.resetsDaily && zone.localDate tracker.previous != zone.localDate now then
        .full tracker.allowance now
      else ⟨tracker.allowance, tracker.remaining, now⟩) :
    after.Dated zone later ↔ engine.Dated zone later := by
  unfold Dated at dated ⊢
  rw [resumed, daily]
  cases held : engine.allowance with
  | none => simp
  | some tracker =>
      have there := dated tracker held
      simp only [Option.map_some, Option.mem_some, forall_eq']
      have previous : ∀ stale : Bool, (if stale = true then
          AllowanceTracker.full tracker.allowance now
          else ⟨tracker.allowance, tracker.remaining, now⟩).previous = now := by
        intro stale
        cases stale <;> rfl
      unfold AllowanceTracker.Dated at there ⊢
      rw [previous]
      exact imp_congr_right fun refills => by rw [(there refills).1, (there refills).2]

/-- `restart` after any run without `insert` and `remove`, at any instant.  If all instants that
were handed over are readable, so is the engine.  If the instant of the tracker is not readable the
text of the allowance is not read back, and if a local date is missing `ofPolicy` breaks off;
otherwise the restart succeeds.  Then every rule with a readable instant is as it was, and any other
is as configured.  If all are readable, `restore` counts every rule, the rules are the same, and
every later `synchronize` lifts the same rules and leaves the same ones.  What is left of the
allowance is kept and counts from the restart on, unless it is refilled because the local dates
differ. -/
theorem restart_transparent (built : ofPolicy zone policy saved begin = .ok engine)
    (positive : ∀ rule ∈ policy.rules, 0 < rule.protector.duration.milliseconds)
    (operations : List Operation)
    (keeps : ∀ operation ∈ operations, operation.keepsRules = true) {reached : Engine}
    (led : (engine.run zone operations).1 = reached) (now : Instant) :
    ((∀ instant ∈ begin :: operations.filterMap Operation.instant?, instant.Readable) →
      reached.Readable) ∧
    ((∃ tracker ∈ reached.allowance, ¬ tracker.previous.Readable) →
      reached.restart zone policy now = none) ∧
    ((∀ tracker ∈ reached.allowance, tracker.previous.Readable) → ¬ reached.Dated zone now →
      reached.restart zone policy now = some (.error .noLocalDate)) ∧
    ((∀ tracker ∈ reached.allowance, tracker.previous.Readable) → reached.Dated zone now →
      ∃ after count, reached.restart zone policy now = some (.ok (after, count)) ∧
        (∀ id rule, reached.rule? id = some rule →
          (rule.protector.Readable → after.rule? id = some rule) ∧
          (¬ rule.protector.Readable →
            after.rule? id = (policy.rule? id).map (·.toRule now))) ∧
        ((∀ id rule, reached.rule? id = some rule → rule.protector.Readable) →
          count = policy.rules.length ∧ after.rules = reached.rules ∧
          ∀ later,
            ((after.synchronize zone later).2.map
                (List.filter fun event => !event.concernsAllowance)) =
              (reached.synchronize zone later).2.map
                (List.filter fun event => !event.concernsAllowance) ∧
            (after.synchronize zone later).1.rules = (reached.synchronize zone later).1.rules) ∧
        after.allowance = reached.allowance.map fun tracker =>
          if reached.resetsDaily && zone.localDate tracker.previous != zone.localDate now then
            .full tracker.allowance now
          else ⟨tracker.allowance, tracker.remaining, now⟩) := by
  obtain ⟨addable, _, rfl⟩ := ofPolicy_eq_ok_iff.mp built
  have restartable : reached.Restartable policy := led ▸ (restartable_initial addable).run zone keeps
  refine ⟨fun told => ?_, fun ⟨tracker, held, unreadable⟩ => restart_of_unreadable held unreadable,
    fun readable undated => ?_, fun readable dated => ?_⟩
  · have begins : (initial zone policy saved begin).Readable :=
      readable_initial addable.distinct (told begin (.head _))
    exact led ▸ begins.run zone keeps fun instant given => told instant (.tail _ given)
  · rw [restartable.restart_eq readable,
      ofPolicy_of_lacksDate addable (restartable.lacksDate_iff.mpr undated)]
    rfl
  · have begins := ofPolicy_of_not_lacksDate addable
      (mt restartable.lacksDate_iff.mp (not_not_intro dated))
    have allowance := restartable.initial_allowance dated
    refine ⟨_, _, (restartable.restart_eq readable).trans (by rw [begins]; rfl),
      fun id rule present =>
        ⟨restartable.rule?_restore_of_readable addable positive present,
          restartable.rule?_restore_of_unreadable addable positive present⟩,
      fun rulesReadable => ?_, allowance⟩
    have capacity : reached.rules.capacity = policy.daemon.maxRules := by
      rw [← led, (run_settings ..).2.2, capacity_initial]
    have rules : ((initial zone policy reached.allowance now).restore
        reached.savedStates).1.rules = reached.rules :=
      (congrArg (RuleGroup.mk · _)
        (restartable.rules_restore addable positive rulesReadable)).trans
          (congrArg _ (capacity_initial.trans capacity.symm))
    refine ⟨restartable.count_restore addable positive rulesReadable, rules, fun later => ⟨?_, ?_⟩⟩
    · exact filter_lifted_congr rules
        (dated_of_resumed dated restartable.resetsDaily.symm allowance)
    · rw [rules_synchronize, rules_synchronize, rules]

/-- `restart` on the next morning: the grace has not been charged for the night, and the allowance
is full. -/
theorem evening_restart :
    ∃ after, ((initial .utc .evening none .epoch).run .utc
        [.plead "bedtime" ⟨1000, by decide, by decide⟩,
          .synchronize ⟨601000, by decide, by decide⟩]).1.restart .utc .evening
            ⟨90000000, by decide, by decide⟩ = some (.ok (after, 2)) ∧
      after.rule? "bedtime" = some ⟨.always, .plea ⟨⟨1800000, by decide⟩,
        .deactivating ⟨⟨1200000, by decide⟩, ⟨601000, by decide, by decide⟩⟩⟩⟩ ∧
      after.allowance =
        some (.full ⟨7200000, by decide⟩ ⟨90000000, by decide, by decide⟩) := by
  obtain ⟨reads, _, _, restarts⟩ :=
    restart_transparent (ofPolicy_evening .utc .epoch) (by decide)
      [.plead "bedtime" ⟨1000, by decide, by decide⟩,
        .synchronize ⟨601000, by decide, by decide⟩] (by decide) rfl
      ⟨90000000, by decide, by decide⟩
  have readable := reads (by decide)
  obtain ⟨after, count, restarted, _, all, allowance⟩ := restarts readable.allowance (by decide)
  obtain ⟨rfl, rules, _⟩ := all readable.rules
  refine ⟨after, restarted, ?_, ?_⟩
  · rw [rule?, rules]
    decide
  · rw [allowance]
    decide

/-- `restart` in the first hour of the calendar, an hour west of UTC: `ofPolicy` breaks off. -/
theorem firstHour_not_restarted :
    (initial (.fixed (-60)) .evening none .epoch).restart (.fixed (-60)) .evening
      ⟨-8334601228800000, by decide, by decide⟩ = some (.error .noLocalDate) := by
  have restartable := @restartable_initial (.fixed (-60)) .evening none .epoch addable_evening
  rw [restartable.restart_eq (by decide), ofPolicy_of_lacksDate addable_evening (by decide)]
  rfl

end Engine

end Curfew
