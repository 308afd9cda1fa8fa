import Curfew.Proofs.Engine.Allowance
import Curfew.Proofs.Protector

namespace Curfew

/-! How often a clock is read does not matter.  Ticks in order that follow on the last
synchronization charge what the last of them would have charged alone, and what they tell
one after the other is what it would have told at once. -/

attribute [ext] Engine

theorem AllowanceTracker.isUp_synchronize {tracker : AllowanceTracker} {now : Instant}
    (up : tracker.isUp = true) : (tracker.synchronize now).isUp = true := by
  have nothing := (Countdown.isFinished_iff tracker.countdown).mp up
  have moved := Countdown.synchronize_remaining tracker.countdown now
  refine (Countdown.isFinished_iff (tracker.countdown.synchronize now)).mpr ?_
  omega

namespace Rule

variable {rule : Rule} {earlier later : Instant}

theorem synchronize_synchronize
    (follows : ∀ countdown ∈ rule.protector.countdown?,
      countdown.previous.milliseconds ≤ earlier.milliseconds)
    (ordered : earlier.milliseconds ≤ later.milliseconds) :
    (rule.synchronize earlier).synchronize later = rule.synchronize later :=
  congrArg (Rule.mk rule.activator) (Protector.synchronize_synchronize follows ordered)

/-- A rule that the earlier of two ticks lifts is off at the later one too. -/
theorem protects_earlier
    (follows : ∀ countdown ∈ rule.protector.countdown?,
      countdown.previous.milliseconds ≤ earlier.milliseconds)
    (ordered : earlier.milliseconds ≤ later.milliseconds)
    (protects : (rule.synchronize later).protects = true) :
    (rule.synchronize earlier).protects = true := by
  rw [← synchronize_synchronize follows ordered] at protects
  exact Protector.protects_of_synchronize protects

end Rule

namespace Engine

variable {zone : Zone} {engine : Engine} {earlier later : Instant}

/-- No countdown of a rule was synchronized after the instant. -/
def RulesUpTo (engine : Engine) (now : Instant) : Prop :=
  ∀ entry ∈ engine.rules.rules.entries, ∀ countdown ∈ entry.2.protector.countdown?,
    countdown.previous.milliseconds ≤ now.milliseconds

def AllowanceUpTo (engine : Engine) (now : Instant) : Prop :=
  ∀ tracker ∈ engine.allowance, tracker.previous.milliseconds ≤ now.milliseconds

/-- Where the allowance is refilled daily, the instant has the local date of the tracker. -/
def SameDay (zone : Zone) (engine : Engine) (now : Instant) : Prop :=
  engine.resetsDaily = true → ∀ tracker ∈ engine.allowance,
    ∃ date ∈ zone.localDate? tracker.previous, zone.localDate? now = some date

instance (engine : Engine) (now : Instant) : Decidable (engine.RulesUpTo now) :=
  inferInstanceAs (Decidable (∀ entry ∈ engine.rules.rules.entries,
    ∀ countdown ∈ entry.2.protector.countdown?, _ ≤ _))

instance (engine : Engine) (now : Instant) : Decidable (engine.AllowanceUpTo now) :=
  inferInstanceAs (Decidable (∀ tracker ∈ engine.allowance, _ ≤ _))

instance (zone : Zone) (engine : Engine) (now : Instant) :
    Decidable (engine.SameDay zone now) :=
  inferInstanceAs (Decidable (_ = _ → ∀ tracker ∈ engine.allowance,
    ∃ date ∈ zone.localDate? tracker.previous, _ = _))

theorem entries_synchronize (zone : Zone) (engine : Engine) (now : Instant) :
    (engine.synchronize zone now).1.rules.rules.entries =
      engine.rules.rules.entries.map fun entry => (entry.1, entry.2.synchronize now) := by
  rw [rules_synchronize]
  rfl

theorem rulesUpTo_synchronize (zone : Zone) (engine : Engine)
    (ordered : earlier.milliseconds ≤ later.milliseconds) :
    (engine.synchronize zone earlier).1.RulesUpTo later := by
  intro entry member countdown counting
  rw [entries_synchronize] at member
  obtain ⟨before, _, rfl⟩ := List.mem_map.mp member
  rw [Protector.previous_of_synchronize counting]
  exact ordered

theorem rules_synchronize_synchronize (zone : Zone) (follows : engine.RulesUpTo earlier)
    (ordered : earlier.milliseconds ≤ later.milliseconds) :
    ((engine.synchronize zone earlier).1.synchronize zone later).1.rules =
      (engine.synchronize zone later).1.rules := by
  rw [rules_synchronize, rules_synchronize, rules_synchronize]
  have tables : ((engine.rules.synchronize earlier).synchronize later).rules =
      (engine.rules.synchronize later).rules := by
    refine Table.ext_get? fun id => ?_
    simp only [RuleGroup.synchronize, Table.get?_map, Option.map_map]
    cases found : engine.rules.rules.get? id with
    | none => rfl
    | some rule =>
        exact congrArg some
          (Rule.synchronize_synchronize (follows _ (Table.get?_eq_some_iff.mp found)) ordered)
  exact congrArg (RuleGroup.mk · engine.rules.capacity) tables

/-- What two ticks lift one after the other, the second lifts alone. -/
theorem lifted_perm (zone : Zone) (follows : engine.RulesUpTo earlier)
    (ordered : earlier.milliseconds ≤ later.milliseconds) :
    (engine.lifted earlier ++ (engine.synchronize zone earlier).1.lifted later).Perm
      (engine.lifted later) := by
  have atFirst : (engine.rules.rules.entries.filter fun entry =>
        entry.2.protects && !(entry.2.synchronize earlier).protects) =
      (engine.rules.rules.entries.filter fun entry =>
        entry.2.protects && !(entry.2.synchronize later).protects).filter fun entry =>
          !(entry.2.synchronize earlier).protects := by
    rw [List.filter_filter]
    refine List.filter_congr fun entry member => ?_
    have gone := Rule.protects_earlier (follows entry member) ordered
    grind
  have afterwards : (engine.rules.rules.entries.filter fun entry =>
        (entry.2.synchronize earlier).protects &&
          !((entry.2.synchronize earlier).synchronize later).protects) =
      (engine.rules.rules.entries.filter fun entry =>
        entry.2.protects && !(entry.2.synchronize later).protects).filter fun entry =>
          !!(entry.2.synchronize earlier).protects := by
    rw [List.filter_filter]
    refine List.filter_congr fun entry member => ?_
    have before : (entry.2.synchronize earlier).protects = true → entry.2.protects = true :=
      Protector.protects_of_synchronize
    rw [Rule.synchronize_synchronize (follows entry member) ordered]
    grind
  have second : (engine.synchronize zone earlier).1.lifted later =
      (engine.rules.rules.entries.filter fun entry =>
        (entry.2.synchronize earlier).protects &&
          !((entry.2.synchronize earlier).synchronize later).protects).map Prod.fst := by
    rw [lifted, entries_synchronize, List.filter_map, List.map_map]
    rfl
  rw [second, lifted, lifted, atFirst, afterwards, ← List.map_append]
  exact (List.filter_append_perm _ _).map _

theorem SameDay.dated {now : Instant} (sameDay : engine.SameDay zone now) :
    engine.Dated zone now := by
  intro tracker held daily
  obtain ⟨date, before, after⟩ := sameDay daily tracker held
  exact ⟨(Zone.localDate?_eq_some_iff.mp before).1, (Zone.localDate?_eq_some_iff.mp after).1⟩

theorem SameDay.trans {tracker : AllowanceTracker}
    (earlierDay : engine.SameDay zone earlier) (laterDay : engine.SameDay zone later)
    (held : engine.allowance = some tracker) (daily : engine.resetsDaily = true) :
    ∃ date ∈ zone.localDate? earlier, zone.localDate? later = some date := by
  obtain ⟨date, before, first⟩ := earlierDay daily tracker held
  obtain ⟨other, again, second⟩ := laterDay daily tracker held
  cases Option.some.inj (before.symm.trans again)
  exact ⟨date, first, second⟩

theorem synchronizeTracker_of_sameDay {daily : Bool} {tracker : AllowanceTracker} {now : Instant}
    (sameDay : daily = true →
      ∃ date ∈ zone.localDate? tracker.previous, zone.localDate? now = some date) :
    synchronizeTracker zone daily tracker now =
      (tracker.synchronize now,
        .ok (if !tracker.isUp && (tracker.synchronize now).isUp then
          [.exhausted tracker.allowance] else [])) := by
  have fresh : tracker.isStale? zone daily now = some false := by
    unfold AllowanceTracker.isStale?
    cases daily with
    | false => rfl
    | true =>
        obtain ⟨date, before, after⟩ := sameDay rfl
        simp [Option.mem_def.mp before, after]
  rw [synchronizeTracker, fresh]

/-- On one local date two ticks charge the tracker as the second does alone, and tell the same. -/
theorem synchronizeTracker_synchronizeTracker {daily : Bool} {tracker : AllowanceTracker}
    (follows : tracker.previous.milliseconds ≤ earlier.milliseconds)
    (ordered : earlier.milliseconds ≤ later.milliseconds)
    (earlierDay : daily = true →
      ∃ date ∈ zone.localDate? tracker.previous, zone.localDate? earlier = some date)
    (laterDay : daily = true →
      ∃ date ∈ zone.localDate? tracker.previous, zone.localDate? later = some date)
    (between : daily = true →
      ∃ date ∈ zone.localDate? earlier, zone.localDate? later = some date) :
    (synchronizeTracker zone daily (synchronizeTracker zone daily tracker earlier).1 later).1 =
        (synchronizeTracker zone daily tracker later).1 ∧
      ∃ first second,
        (synchronizeTracker zone daily tracker earlier).2 = .ok first ∧
        (synchronizeTracker zone daily
          (synchronizeTracker zone daily tracker earlier).1 later).2 = .ok second ∧
        (synchronizeTracker zone daily tracker later).2 = .ok (first ++ second) := by
  have together : (tracker.synchronize earlier).synchronize later = tracker.synchronize later :=
    congrArg (AllowanceTracker.mk tracker.allowance)
      (Countdown.synchronize_synchronize follows ordered)
  have stays : tracker.isUp = true → (tracker.synchronize earlier).isUp = true :=
    AllowanceTracker.isUp_synchronize
  have goesOn : (tracker.synchronize earlier).isUp = true →
      (tracker.synchronize later).isUp = true := fun up =>
    Countdown.isFinished_synchronize up ordered
  rw [synchronizeTracker_of_sameDay earlierDay, synchronizeTracker_of_sameDay laterDay,
    @synchronizeTracker_of_sameDay zone daily (tracker.synchronize earlier) later between, together]
  refine ⟨rfl, _, _, rfl, rfl, congrArg Except.ok ?_⟩
  change _ = _ ++ if !(tracker.synchronize earlier).isUp && (tracker.synchronize later).isUp then
    [Event.exhausted tracker.allowance] else []
  -- It runs out at the earlier tick, at the later one, or at neither.
  cases before : tracker.isUp <;> cases first : (tracker.synchronize earlier).isUp <;>
    cases second : (tracker.synchronize later).isUp <;> simp_all

theorem allowanceEvents_synchronize (allowance : engine.AllowanceUpTo earlier)
    (ordered : earlier.milliseconds ≤ later.milliseconds)
    (earlierDay : engine.SameDay zone earlier) (laterDay : engine.SameDay zone later) :
    ((engine.synchronize zone earlier).1.synchronize zone later).1.allowance =
        (engine.synchronize zone later).1.allowance ∧
      ∃ first second, engine.allowanceEvents zone earlier = .ok first ∧
        (engine.synchronize zone earlier).1.allowanceEvents zone later = .ok second ∧
        engine.allowanceEvents zone later = .ok (first ++ second) := by
  simp only [synchronize_allowance, (synchronize_settings zone engine earlier).1, allowanceEvents]
  cases held : engine.allowance with
  | none => exact ⟨rfl, [], [], rfl, rfl, rfl⟩
  | some tracker =>
      obtain ⟨charged, told⟩ := synchronizeTracker_synchronizeTracker (allowance tracker held)
        ordered (fun daily => earlierDay daily tracker held)
        (fun daily => laterDay daily tracker held) (earlierDay.trans laterDay held)
      exact ⟨congrArg some charged, told⟩

theorem synchronize_synchronize (rules : engine.RulesUpTo earlier)
    (allowance : engine.AllowanceUpTo earlier)
    (ordered : earlier.milliseconds ≤ later.milliseconds)
    (earlierDay : engine.SameDay zone earlier) (laterDay : engine.SameDay zone later) :
    ((engine.synchronize zone earlier).1.synchronize zone later).1 =
        (engine.synchronize zone later).1 ∧
      ∃ first second alone, (engine.synchronize zone earlier).2 = .ok first ∧
        ((engine.synchronize zone earlier).1.synchronize zone later).2 = .ok second ∧
        (engine.synchronize zone later).2 = .ok alone ∧ (first ++ second).Perm alone := by
  have group := rules_synchronize_synchronize zone rules ordered
  have lifts := (lifted_perm zone rules ordered).map Event.lifted
  obtain ⟨charged, first, second, toldFirst, toldSecond, toldAlone⟩ :=
    allowanceEvents_synchronize allowance ordered earlierDay laterDay
  constructor
  · have before := synchronize_settings zone engine earlier
    have after := synchronize_settings zone (engine.synchronize zone earlier).1 later
    have alone := synchronize_settings zone engine later
    apply Engine.ext
    · exact group
    · exact charged
    · rw [after.1, before.1, alone.1]
    · rw [after.2.1, before.2.1, alone.2.1]
  · refine ⟨_, _, _, synchronize_eq_ok_iff.mpr ⟨first, toldFirst, rfl⟩,
      synchronize_eq_ok_iff.mpr ⟨second, toldSecond, rfl⟩,
      synchronize_eq_ok_iff.mpr ⟨first ++ second, toldAlone, rfl⟩, ?_⟩
    have apart : ∀ lifted told lifted' told' : List Event,
        ((lifted ++ told) ++ (lifted' ++ told')).Perm ((lifted ++ lifted') ++ (told ++ told')) :=
      fun lifted told lifted' told' => by
        rw [List.append_assoc, List.append_assoc, ← List.append_assoc told,
          ← List.append_assoc lifted']
        exact (List.perm_append_comm.append_right told').append_left lifted
    rw [List.map_append] at lifts
    exact (apart ..).trans (lifts.append_right _)

theorem run_tick (zone : Zone) (engine : Engine) (now : Instant) (rest : List Operation) :
    (engine.run zone (.synchronize now :: rest)).1 =
      ((engine.synchronize zone now).1.run zone rest).1 := rfl

theorem eventsOf_run_tick (zone : Zone) (engine : Engine) (now : Instant)
    (rest : List Operation) :
    eventsOf (engine.run zone (.synchronize now :: rest)).2 =
      (engine.synchronize zone now).2.toOption.getD [] ++
        eventsOf ((engine.synchronize zone now).1.run zone rest).2 := by
  rw [run_cons, ← eventsOf_answer_synchronize, ← eventsOf_append]
  rfl

theorem allowanceUpTo_synchronize (dated : engine.Dated zone earlier)
    (ordered : earlier.milliseconds ≤ later.milliseconds) :
    (engine.synchronize zone earlier).1.AllowanceUpTo later := by
  intro tracker held
  rw [synchronize_allowance] at held
  obtain ⟨before, given, rfl⟩ := Option.map_eq_some_iff.mp held
  rw [previous_synchronizeTracker (dated before given)]
  exact ordered

theorem sameDay_synchronize (earlierDay : engine.SameDay zone earlier)
    (laterDay : engine.SameDay zone later) :
    (engine.synchronize zone earlier).1.SameDay zone later := by
  intro daily tracker held
  rw [(synchronize_settings zone engine earlier).1] at daily
  rw [synchronize_allowance] at held
  obtain ⟨before, given, rfl⟩ := Option.map_eq_some_iff.mp held
  rw [previous_synchronizeTracker (earlierDay.dated before given)]
  exact earlierDay.trans laterDay given daily

theorem answers_run_ticks (zone : Zone) (engine : Engine) (ticks : List Instant) :
    List.Forall₂ (fun tick answer =>
        (engine.Dated zone tick → ∃ events, answer = .ok (.events events)) ∧
          (¬ engine.Dated zone tick → answer = .error .noLocalDate))
      ticks (engine.run zone (ticks.map .synchronize)).2 := by
  induction ticks generalizing engine with
  | nil => exact .nil
  | cons tick rest ih =>
      rw [List.map_cons, run_cons]
      refine .cons ⟨fun dated => ?_, fun undated => ?_⟩ ?_
      · obtain ⟨events, told⟩ := exists_events dated
        exact ⟨events, congrArg (Except.map Answer.events) told⟩
      · exact congrArg (fun left => left.2.map Answer.events) (synchronize_of_undated undated)
      · have later := ih (engine.synchronize zone tick).1
        simp only [dated_synchronize_iff] at later
        exact later

theorem rules_run_ticks (zone : Zone) {first : Instant} {rest : List Instant}
    (ordered : (first :: rest).Pairwise fun earlier later =>
      earlier.milliseconds ≤ later.milliseconds)
    (rules : engine.RulesUpTo first) :
    (engine.run zone ((first :: rest).map .synchronize)).1.rules =
      (engine.synchronize zone (rest.getLastD first)).1.rules := by
  induction rest generalizing engine first with
  | nil => rfl
  | cons second rest ih =>
      obtain ⟨above, later⟩ := List.pairwise_cons.mp ordered
      have firstTwo := above second (.head _)
      rw [List.map_cons, run_tick, List.getLastD_cons]
      exact (ih later (rulesUpTo_synchronize zone engine firstTwo)).trans
        (rules_synchronize_synchronize zone rules (Int.le_trans firstTwo (le_getLastD later)))

theorem lifted_run_ticks {first : Instant} {rest : List Instant}
    (ordered : (first :: rest).Pairwise fun earlier later =>
      earlier.milliseconds ≤ later.milliseconds)
    (rules : engine.RulesUpTo first) (dated : ∀ tick ∈ first :: rest, engine.Dated zone tick) :
    ((eventsOf (engine.run zone ((first :: rest).map .synchronize)).2).filter
      fun event => !event.concernsAllowance).Perm
        ((engine.lifted (rest.getLastD first)).map .lifted) := by
  induction rest generalizing engine first with
  | nil =>
      obtain ⟨events, told⟩ := exists_events (dated first (.head _))
      rw [List.map_singleton, eventsOf_run_tick, told]
      simp only [run, eventsOf, List.flatMap_nil, List.append_nil, Except.toOption,
        Option.getD_some]
      rw [filter_lifted_synchronize told]
      exact .refl _
  | cons second rest ih =>
      obtain ⟨above, later⟩ := List.pairwise_cons.mp ordered
      have firstTwo := above second (.head _)
      obtain ⟨events, told⟩ := exists_events (dated first (.head _))
      have perm := (lifted_perm zone rules
        (Int.le_trans firstTwo (le_getLastD later))).map Event.lifted
      have lifts := ih later (rulesUpTo_synchronize zone engine firstTwo) fun tick member =>
        (dated_synchronize_iff ..).mpr (dated tick (.tail _ member))
      rw [List.map_cons, eventsOf_run_tick, told, List.getLastD_cons, Except.toOption,
        Option.getD_some, List.filter_append, filter_lifted_synchronize told]
      rw [List.map_append] at perm
      exact (lifts.append_left _).trans perm

theorem run_ticks_of_sameDay {first : Instant} {rest : List Instant}
    (ordered : (first :: rest).Pairwise fun earlier later =>
      earlier.milliseconds ≤ later.milliseconds)
    (rules : engine.RulesUpTo first) (allowance : engine.AllowanceUpTo first)
    (days : ∀ tick ∈ first :: rest, engine.SameDay zone tick) :
    (engine.run zone ((first :: rest).map .synchronize)).1 =
        (engine.synchronize zone (rest.getLastD first)).1 ∧
      ∃ alone, (engine.synchronize zone (rest.getLastD first)).2 = .ok alone ∧
        (eventsOf (engine.run zone ((first :: rest).map .synchronize)).2).Perm alone := by
  induction rest generalizing engine first with
  | nil =>
      obtain ⟨events, told⟩ := exists_events (days first (.head _)).dated
      refine ⟨rfl, events, told, ?_⟩
      rw [List.map_singleton, eventsOf_run_tick, told]
      exact .of_eq (List.append_nil _)
  | cons second rest ih =>
      obtain ⟨above, later⟩ := List.pairwise_cons.mp ordered
      have firstTwo := above second (.head _)
      have firstDay := days first (.head _)
      have lastDay : engine.SameDay zone (rest.getLastD second) :=
        days _ (.tail _ List.getLastD_mem_cons)
      obtain ⟨same, after, toldAfter, events⟩ :=
        ih later (rulesUpTo_synchronize zone engine firstTwo)
          (allowanceUpTo_synchronize firstDay.dated firstTwo)
          fun tick member => sameDay_synchronize firstDay (days tick (.tail _ member))
      obtain ⟨collapsed, before, second, alone, toldBefore, toldSecond, toldAlone, merged⟩ :=
        synchronize_synchronize rules allowance (Int.le_trans firstTwo (le_getLastD later))
          firstDay lastDay
      cases Except.ok.inj (toldAfter.symm.trans toldSecond)
      rw [List.map_cons, run_tick, eventsOf_run_tick, toldBefore, List.getLastD_cons]
      refine ⟨same.trans collapsed, alone, toldAlone, ?_⟩
      exact (events.append_left before).trans merged

/-- `synchronize` at instants in order against `synchronize` at the last of them alone.  The rules
are the same in any case.  A tick breaks off exactly if a local date is missing that the tracker has
to be compared by, and its lifts are then not told; if none breaks off the lifts are the same.  If
all ticks are on the local date of the tracker, none breaks off, and the whole engine and all events
are the same. -/
theorem run_ticks (zone : Zone) (engine : Engine) (first : Instant) (rest : List Instant)
    (ordered : (first :: rest).Pairwise fun earlier later =>
      earlier.milliseconds ≤ later.milliseconds)
    (rules : engine.RulesUpTo first) :
    (engine.run zone ((first :: rest).map .synchronize)).1.rules =
        (engine.synchronize zone (rest.getLastD first)).1.rules ∧
      List.Forall₂ (fun tick answer =>
          (engine.Dated zone tick → ∃ events, answer = .ok (.events events)) ∧
            (¬ engine.Dated zone tick → answer = .error .noLocalDate))
        (first :: rest) (engine.run zone ((first :: rest).map .synchronize)).2 ∧
      ((∀ tick ∈ first :: rest, engine.Dated zone tick) →
        ∃ alone, (engine.synchronize zone (rest.getLastD first)).2 = .ok alone ∧
          ((eventsOf (engine.run zone ((first :: rest).map .synchronize)).2).filter
            fun event => !event.concernsAllowance).Perm
              (alone.filter fun event => !event.concernsAllowance)) ∧
      (engine.AllowanceUpTo first → (∀ tick ∈ first :: rest, engine.SameDay zone tick) →
        (engine.run zone ((first :: rest).map .synchronize)).1 =
            (engine.synchronize zone (rest.getLastD first)).1 ∧
          ∃ alone, (engine.synchronize zone (rest.getLastD first)).2 = .ok alone ∧
            (eventsOf (engine.run zone ((first :: rest).map .synchronize)).2).Perm alone) := by
  refine ⟨rules_run_ticks zone ordered rules, answers_run_ticks zone engine _, fun dated => ?_,
    run_ticks_of_sameDay ordered rules⟩
  obtain ⟨alone, told⟩ := exists_events (dated _ (List.getLastD_mem_cons (a := first)))
  exact ⟨alone, told, filter_lifted_synchronize told ▸ lifted_run_ticks ordered rules dated⟩

/-- The grace of half an hour runs out at the first of three ticks, the countdown at the second and
the allowance at the third. -/
theorem evening_ticks :
    (((initial .utc .evening none .epoch).run .utc [.plead "bedtime" .epoch]).1.run .utc
        ([⟨1800000, by decide, by decide⟩, ⟨6000000, by decide, by decide⟩,
          ⟨7200000, by decide, by decide⟩].map .synchronize)).1 =
      (((initial .utc .evening none .epoch).run .utc [.plead "bedtime" .epoch]).1.synchronize
        .utc ⟨7200000, by decide, by decide⟩).1 ∧
    (eventsOf (((initial .utc .evening none .epoch).run .utc [.plead "bedtime" .epoch]).1.run
        .utc ([⟨1800000, by decide, by decide⟩, ⟨6000000, by decide, by decide⟩,
          ⟨7200000, by decide, by decide⟩].map .synchronize)).2).Perm
      [.lifted "bedtime", .lifted "focus", .exhausted ⟨7200000, by decide⟩] := by
  obtain ⟨_, _, _, whole⟩ := run_ticks .utc
    ((initial .utc .evening none .epoch).run .utc [.plead "bedtime" .epoch]).1
    ⟨1800000, by decide, by decide⟩
    [⟨6000000, by decide, by decide⟩, ⟨7200000, by decide, by decide⟩] (by decide) (by decide)
  obtain ⟨state, alone, told, events⟩ := whole (by decide) (by decide)
  have once : (((initial .utc .evening none .epoch).run .utc
      [.plead "bedtime" .epoch]).1.synchronize .utc ⟨7200000, by decide, by decide⟩).2 =
      .ok [.lifted "bedtime", .lifted "focus", .exhausted ⟨7200000, by decide⟩] := by
    decide
  cases Except.ok.inj (told.symm.trans once)
  exact ⟨state, events⟩

/-- An hour east of UTC the last hour of the calendar belongs to no date.  `synchronize` in it lifts
a rule and breaks off without telling so, while an earlier tick tells it. -/
theorem lastHour_lifted_untold :
    let engine := initial (.fixed 60) .evening none .epoch
    let ended : Instant := ⟨5400000, by decide, by decide⟩
    let last : Instant := ⟨8210266876799999, by decide, by decide⟩
    engine.RulesUpTo ended ∧
      (engine.run (.fixed 60) [.synchronize ended, .synchronize last]).1.rules =
        (engine.synchronize (.fixed 60) last).1.rules ∧
      (engine.run (.fixed 60) [.synchronize ended, .synchronize last]).2 =
        [.ok (.events [.lifted "focus"]), .error .noLocalDate] ∧
      (engine.synchronize (.fixed 60) last).2 = .error .noLocalDate := by
  decide

end Engine

end Curfew
