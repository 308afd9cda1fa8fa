import Curfew.Proofs.Engine.Allowance
import Curfew.Proofs.Engine.Lifetime
import Curfew.Proofs.Engine.Move

namespace Curfew

/-! What holds of every engine that can be reached, whatever has been saved and whatever
is restored: no rule and no allowance goes beyond what is configured. -/

namespace ProtectorPolicy

def kind : ProtectorPolicy → ProtectorKind
  | .timed .. => .timed
  | .plea _ => .plea

def duration : ProtectorPolicy → Duration
  | .timed duration _ => duration
  | .plea grace => grace

end ProtectorPolicy

/-- The rule is what its policy says, apart from how far its protector has come. -/
structure Rule.Follows (rule : Rule) (policy : RulePolicy) : Prop where
  activator : rule.activator = policy.activator
  kind : rule.protector.kind = policy.protector.kind
  duration : rule.protector.duration = policy.protector.duration
  sound : rule.protector.Sound

structure AllowanceTracker.Within (tracker : AllowanceTracker) (terms : AllowancePolicy) :
    Prop where
  allowance : tracker.allowance = terms.daily
  bounded : tracker.remaining.milliseconds ≤ terms.daily.milliseconds

namespace Rule

theorem Follows.move {rule : Rule} {policy : RulePolicy} {protector : Protector}
    {given : Option Instant} (follows : rule.Follows policy)
    (move : rule.protector.Move given protector) :
    Follows { rule with protector } policy where
  activator := follows.activator
  kind := move.kind.trans follows.kind
  duration := move.duration.trans follows.duration
  sound := move.sound follows.sound

theorem follows_toRule (policy : RulePolicy) (now : Instant) :
    (policy.toRule now).Follows policy := by
  obtain ⟨id, label, activator, protector⟩ := policy
  cases protector with
  | timed duration startImmediately =>
      cases startImmediately with
      | true => exact ⟨rfl, rfl, rfl, Protector.sound_of_full rfl⟩
      | false => exact ⟨rfl, rfl, rfl, Protector.sound_of_idle rfl⟩
  | plea grace => exact ⟨rfl, rfl, rfl, Protector.sound_of_idle rfl⟩

end Rule

theorem AllowancePolicy.within_initialTracker (zone : Zone) (terms : AllowancePolicy)
    (now : Instant) (saved : Option AllowanceTracker) :
    (terms.initialTracker zone now saved).Within terms := by
  obtain ⟨allowance, _, bounded⟩ := terms.initialTracker_sound zone now saved
  exact ⟨allowance, bounded⟩

theorem AllowancePolicy.lacksDate_iff_of_within {zone : Zone} {terms : AllowancePolicy}
    {tracker : AllowanceTracker} {now : Instant} (within : tracker.Within terms) :
    terms.LacksDate zone now (some tracker) ↔ ¬ tracker.Dated zone terms.resetDaily now := by
  rw [AllowanceTracker.not_dated_iff]
  simp [LacksDate, within.bounded, within.allowance]

theorem AllowanceTracker.Within.synchronize {tracker : AllowanceTracker}
    {terms : AllowancePolicy} (within : tracker.Within terms) (zone : Zone) (daily : Bool)
    (now : Instant) : (Engine.synchronizeTracker zone daily tracker now).1.Within terms := by
  unfold Engine.synchronizeTracker
  split
  · exact within
  · exact ⟨within.allowance, Nat.le_of_eq (congrArg Duration.milliseconds within.allowance)⟩
  · refine ⟨within.allowance, ?_⟩
    have moved := Countdown.synchronize_remaining tracker.countdown now
    have bounded := within.bounded
    change (tracker.countdown.synchronize now).remaining.milliseconds ≤ _
    change tracker.countdown.remaining.milliseconds ≤ _ at bounded
    omega

namespace Engine

variable {zone : Zone} {policy : Policy} {saved : Option AllowanceTracker}
  {begin : Instant} {engine : Engine}

/-- The invariant of a run: the engine is within the bounds of its policy.  Its rules are those
whose lives go on, and each follows the policy of its latest insertion. -/
structure WellFormed (policy : Policy) (lives : String → Option Lifetime) (engine : Engine) :
    Prop where
  capacity : engine.rules.capacity = policy.daemon.maxRules
  room : engine.rules.size ≤ engine.rules.capacity
  rules : ∀ id, Option.Rel Rule.Follows (engine.rule? id) ((lives id).map (·.policy))
  allowance : Option.Rel AllowanceTracker.Within engine.allowance policy.allowance

theorem wellFormed_initial
    (addable : Addable policy.rules (.withCapacity policy.daemon.maxRules)) :
    (initial zone policy saved begin).WellFormed policy
      fun id => (policy.rule? id).map fun rule => ⟨rule, begin, []⟩ where
  capacity := capacity_initial
  room := by
    have room := addable.room
    change (addAll ..).size ≤ (addAll ..).capacity
    rwa [size_addAll addable, capacity_addAll]
  rules := fun id => by
    rw [rule?_initial addable.distinct]
    cases policy.rule? id with
    | none => exact .none
    | some rule => exact .some (Rule.follows_toRule rule begin)
  allowance := by
    simp only [initial]
    cases policy.allowance with
    | none => exact .none
    | some terms => exact .some (terms.within_initialTracker zone begin saved)

theorem follows_ruleAfter {id : String} {rule : Option Rule} {life : Option Lifetime}
    (follows : Option.Rel Rule.Follows rule (life.map (·.policy)))
    (entry : Operation × Except Failure Answer) :
    Option.Rel Rule.Follows (ruleAfter id rule entry)
      ((Lifetime.advance id life entry).map (·.policy)) := by
  have acts (operation : Operation) : Option.Rel Rule.Follows
      (rule.map fun rule => { rule with protector := operation.effect id rule.protector })
      ((life.map fun life => if operation.concerns id then life.push operation else life).map
        (·.policy)) := by
    -- Only an insertion gives a life another policy.
    have same : (life.map fun life =>
        if operation.concerns id then life.push operation else life).map (·.policy) =
        life.map (·.policy) := by
      cases life with
      | none => rfl
      | some life =>
          simp only [Option.map_some]
          split <;> rfl
    rw [same]
    exact rel_map_left follows fun _ _ before => before.move (move_effect ..)
  obtain ⟨operation, answer⟩ := entry
  cases operation with
  | insert policy now =>
      cases answer with
      | error reason => exact acts _
      | ok answer =>
          simp only [ruleAfter, Lifetime.advance]
          split
          · exact .some (Rule.follows_toRule policy now)
          · exact follows
  | remove target =>
      cases answer with
      | error reason => exact acts _
      | ok answer =>
          simp only [ruleAfter, Lifetime.advance]
          split
          · exact .none
          · exact follows
  | synchronize | decision | decisionAt | plead | rearm | start | save | restore =>
      exact acts _

theorem Attempted.size {target : String} {f : Protector → Protector} {after : Engine}
    (attempted : engine.Attempted target f after) : after.rules.size = engine.rules.size := by
  rcases attempted with ⟨rfl, _⟩ | ⟨rule, found, rfl⟩
  · rfl
  · exact Table.size_insert_of_some found _

theorem room_next (room : engine.rules.size ≤ engine.rules.capacity) (operation : Operation) :
    (engine.next zone operation).rules.size ≤ engine.rules.capacity := by
  have acted (target : String) (acts : operation.actsOn? = some target) :
      (engine.next zone operation).rules.size ≤ engine.rules.capacity := by
    rw [(attempted_next zone engine acts).size]
    exact room
  cases operation with
  | synchronize now =>
      have same : (engine.rules.synchronize now).size = engine.rules.size := Table.size_map ..
      rw [next_synchronize, synchronize_eq]
      exact same ▸ room
  | plead target now => exact acted target rfl
  | rearm target => exact acted target rfl
  | start target now => exact acted target rfl
  | insert policy now =>
      rw [next_insert]
      rcases engine.rules.insert_cases policy.id (policy.toRule now) with
        ⟨_, _, refused⟩ | ⟨_, _, refused⟩ | ⟨absent, free, inserted⟩
      · exact refused ▸ room
      · exact refused ▸ room
      · exact inserted ▸ size_set_le absent free
  | remove target =>
      rw [next_remove]
      exact Nat.le_trans (Table.size_erase_le ..) room
  | restore states => exact Nat.le_trans (Nat.le_of_eq (Table.size_map ..)) room
  | decision | decisionAt | save => exact room

theorem rel_allowance_next {bounds : AllowanceTracker → AllowancePolicy → Prop}
    {terms : Option AllowancePolicy} (related : Option.Rel bounds engine.allowance terms)
    {operation : Operation}
    (keeps : ∀ now, operation.tick? = some now → ∀ tracker terms, bounds tracker terms →
      bounds (synchronizeTracker zone engine.resetsDaily tracker now).1 terms) :
    Option.Rel bounds (engine.next zone operation).allowance terms := by
  cases tick : operation.tick? with
  | none =>
      obtain ⟨table, after⟩ := next_of_no_tick zone engine tick
      rw [after]
      exact related
  | some now =>
      have ticks := keeps now tick
      obtain rfl := Operation.eq_synchronize_of_tick? tick
      rw [next_synchronize, synchronize_allowance]
      exact rel_map_left related ticks

theorem within_run {terms : Option AllowancePolicy}
    (within : Option.Rel AllowanceTracker.Within engine.allowance terms) (zone : Zone)
    (operations : List Operation) :
    Option.Rel AllowanceTracker.Within (engine.run zone operations).1.allowance terms := by
  induction operations using List.reverseRecOn with
  | nil => exact within
  | append_singleton before operation ih =>
      rw [run_concat]
      exact rel_allowance_next ih fun _ _ _ _ before => before.synchronize ..

theorem WellFormed.next {lives : String → Option Lifetime}
    (wellFormed : engine.WellFormed policy lives) (zone : Zone) (operation : Operation) :
    (engine.next zone operation).WellFormed policy
      fun id => Lifetime.advance id (lives id) (operation, engine.answer zone operation) := by
  have capacity := (next_settings zone engine operation).2.2
  refine ⟨capacity.trans wellFormed.capacity, ?_, fun id => ?_, ?_⟩
  · rw [capacity]
    exact room_next wellFormed.room operation
  · rw [rule?_next]
    exact follows_ruleAfter (wellFormed.rules id) _
  · exact rel_allowance_next wellFormed.allowance fun _ _ _ _ within => within.synchronize ..

/-- Every `run` of an engine of `ofPolicy`, whatever tracker was saved and whatever states are
restored, keeps it within its bounds: the capacity is not exceeded, every countdown is within the
duration of its rule, every rule has its configured window, kind and duration, and no more of the
allowance is left than is configured. -/
theorem wellFormed_run (built : ofPolicy zone policy saved begin = .ok engine)
    (operations : List Operation) :
    (engine.run zone operations).1.WellFormed policy
      (Lifetime.of? zone policy begin engine operations) := by
  obtain ⟨addable, _, rfl⟩ := ofPolicy_eq_ok_iff.mp built
  induction operations using List.reverseRecOn with
  | nil => exact wellFormed_initial addable
  | append_singleton before operation ih =>
      have extended := ih.next zone operation
      rw [run_concat]
      unfold Lifetime.of?
      simp only [trace_concat, List.foldl_concat]
      exact extended

/-- A saved tracker with a day left of an hour, and a `restore` of a countdown that is too long. -/
theorem evening_wellFormed :
    ((initial .utc .evening
        (some ⟨⟨3600000, by decide⟩, ⟨⟨86400000, by decide⟩, .epoch⟩⟩) .epoch).run .utc
      [.restore (Table.ofList
        [("focus", .running ⟨5400001, 0, by decide, by decide⟩), ("bedtime", .deactivated)]),
        .remove "focus", .rearm "bedtime"]).1.WellFormed .evening
      (Lifetime.of? .utc .evening .epoch
        (initial .utc .evening
          (some ⟨⟨3600000, by decide⟩, ⟨⟨86400000, by decide⟩, .epoch⟩⟩) .epoch)
        [.restore (Table.ofList
          [("focus", .running ⟨5400001, 0, by decide, by decide⟩), ("bedtime", .deactivated)]),
          .remove "focus", .rearm "bedtime"]) :=
  wellFormed_run (ofPolicy_of_not_lacksDate addable_evening (by decide)) _

end Engine

end Curfew
