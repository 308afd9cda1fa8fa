import Curfew.Proofs.Countdown
import Curfew.Proofs.Engine.Construction
import Curfew.Proofs.Since
import Mathlib.Data.List.Chain

namespace Curfew

/-! The allowance over whole runs.  What is left of it and what is told about it follow
from the ticks alone: from the last one that fell on another local day than the tick
before it, and from the time that has gone by since then. -/

namespace AllowancePolicy

/-- The allowance is refilled in a step from one tick to the next. -/
def rollsOver (zone : Zone) (terms : AllowancePolicy) (step : Instant × Instant) : Bool :=
  terms.resetDaily && zone.localDate step.1 != zone.localDate step.2

/-- The instant has a local date, which only an allowance that is refilled daily needs. -/
def isDated (zone : Zone) (terms : AllowancePolicy) (instant : Instant) : Bool :=
  !terms.resetDaily || zone.hasDate instant

/-- The ticks at which `synchronize` does not break off. -/
def counted (zone : Zone) (terms : AllowancePolicy) (start : Instant) (ticks : List Instant) :
    List Instant :=
  ticks.filter fun tick => terms.isDated zone start && terms.isDated zone tick

/-- What is left after the ticks, in closed form: the full allowance less the steps since the last
refill, or `first` less all steps where there was no refill. -/
def left (zone : Zone) (terms : AllowancePolicy) (first : Duration) (start : Instant)
    (ticks : List Instant) : Nat :=
  match sinceLast? (fun step => if terms.rollsOver zone step then some () else none)
      (steps start ticks) with
  | some (_, charged) => terms.daily.milliseconds - charge charged
  | none => first.milliseconds - elapsed start ticks

variable {zone : Zone} {terms : AllowancePolicy} {first : Duration} {start : Instant}
  {ticks : List Instant} {now : Instant}

theorem left_concat :
    terms.left zone first start (ticks ++ [now]) =
      if terms.rollsOver zone (ticks.getLastD start, now) then terms.daily.milliseconds
      else terms.left zone first start ticks -
        (now.milliseconds - (ticks.getLastD start).milliseconds).toNat := by
  rw [left, left, steps_concat, sinceLast?_concat]
  cases rolls : terms.rollsOver zone (ticks.getLastD start, now) with
  | true => simp [charge]
  | false =>
      cases sinceLast? (fun step => if terms.rollsOver zone step then some () else none)
          (steps start ticks) with
      | none => simp [elapsed_concat, Nat.sub_sub]
      | some found => simp [charge_concat, Nat.sub_sub]

theorem counted_concat :
    terms.counted zone start (ticks ++ [now]) =
      terms.counted zone start ticks ++
        if terms.isDated zone start && terms.isDated zone now then [now] else [] := by
  rw [counted, counted, List.filter_append, List.filter_singleton]
  cases terms.isDated zone start && terms.isDated zone now <;> rfl

theorem counted_eq_self (dated : ∀ instant ∈ start :: ticks, terms.isDated zone instant = true) :
    terms.counted zone start ticks = ticks := by
  refine List.filter_eq_self.mpr fun tick member => ?_
  rw [dated start (.head _), dated tick (.tail _ member)]
  rfl

theorem isDated_getLastD_counted :
    terms.isDated zone ((terms.counted zone start ticks).getLastD start) =
      terms.isDated zone start := by
  rcases List.mem_cons.mp (List.getLastD_mem_cons (l := terms.counted zone start ticks)
    (a := start)) with same | member
  · rw [same]
  · obtain ⟨begun, dated⟩ := Bool.and_eq_true_iff.mp (List.mem_filter.mp member).2
    rw [begun, dated]

/-- Whatever was saved, the tracker of `initialTracker` is for the configured allowance, holds no
more than that, and counts from now on. -/
theorem initialTracker_sound (zone : Zone) (terms : AllowancePolicy) (now : Instant)
    (saved : Option AllowanceTracker) :
    (terms.initialTracker zone now saved).allowance = terms.daily ∧
      (terms.initialTracker zone now saved).previous = now ∧
      (terms.initialTracker zone now saved).remaining.milliseconds ≤
        terms.daily.milliseconds := by
  have full : ∀ daily : Duration, (AllowanceTracker.full daily now).allowance = daily ∧
      (AllowanceTracker.full daily now).previous = now ∧
      (AllowanceTracker.full daily now).remaining.milliseconds ≤ daily.milliseconds :=
    fun _ => ⟨rfl, rfl, Nat.le_refl _⟩
  cases saved with
  | none => exact full _
  | some saved =>
      simp only [initialTracker, initialTracker?]
      by_cases exceeds : saved.remaining.milliseconds > saved.allowance.milliseconds
      · rw [if_pos exceeds]
        exact full _
      · by_cases other : saved.allowance ≠ terms.daily
        · rw [if_neg exceeds, if_pos other]
          exact full _
        · have same : saved.allowance = terms.daily := not_not.mp other
          rw [if_neg exceeds, if_neg other, ← same]
          rcases saved.isStale? zone terms.resetDaily now with _ | _ | _
          · exact full _
          · exact ⟨rfl, rfl, Nat.le_of_not_gt exceeds⟩
          · exact full _

end AllowancePolicy

def Event.concernsAllowance : Event → Bool
  | .lifted _ => false
  | .exhausted _ | .refilled _ => true

def Event.isExhausted : Event → Bool
  | .exhausted _ => true
  | _ => false

def Event.Apart (earlier later : Event) : Prop :=
  ¬ (earlier.isExhausted = true ∧ later.isExhausted = true)

/-- Events about the allowance, never two in a row that it is exhausted, and nothing left after such
an event. -/
structure Event.Alternate (events : List Event) (left : Nat) : Prop where
  chain : events.IsChain Apart
  ended : ∀ last ∈ events.getLast?, last.isExhausted = true → left = 0

namespace Event.Alternate

variable {events : List Event} {before left : Nat} {amount : Duration}

theorem less (alternate : Alternate events before) (less : left ≤ before) :
    Alternate events left :=
  ⟨alternate.chain, fun last member exhausted =>
    Nat.le_zero.mp (alternate.ended last member exhausted ▸ less)⟩

theorem refilled (alternate : Alternate events before) :
    Alternate (events ++ [.refilled amount]) left where
  chain := by
    refine List.isChain_append.mpr ⟨alternate.chain, .singleton _, fun earlier _ later member => ?_⟩
    cases Option.some.inj member
    exact fun both => Bool.false_ne_true both.2
  ended last member exhausted := by
    rw [List.getLast?_concat] at member
    cases Option.some.inj member
    exact absurd exhausted Bool.false_ne_true

/-- An event of the same kind before this one would mean that nothing was left already. -/
theorem exhausted (alternate : Alternate events before) (some : 0 < before) :
    Alternate (events ++ [.exhausted amount]) 0 where
  chain := List.isChain_append.mpr ⟨alternate.chain, .singleton _, fun earlier member _ _ both =>
    Nat.ne_of_gt some (alternate.ended earlier member both.1)⟩
  ended _ _ _ := rfl

end Event.Alternate

namespace Engine

variable {zone : Zone} {policy : Policy} {terms : AllowancePolicy}
  {saved : Option AllowanceTracker} {begin : Instant} {engine : Engine} {first : Duration}

def Answer.eventList : Answer → List Event
  | .events told => told
  | _ => []

/-- All events in the answers of a run, in order. -/
def eventsOf (answers : List (Except Failure Answer)) : List Event :=
  answers.flatMap fun
    | .ok answer => answer.eventList
    | .error _ => []

theorem filter_lifted_eq_nil (ids : List String) :
    (ids.map Event.lifted).filter Event.concernsAllowance = [] := by
  simp [Event.concernsAllowance]

theorem filter_not_lifted (ids : List String) :
    ((ids.map Event.lifted).filter fun event => !event.concernsAllowance) =
      ids.map Event.lifted := by
  simp [List.filter_eq_self, Event.concernsAllowance]

theorem concernsAllowance_of_allowanceEvents {now : Instant} {told : List Event}
    (charged : engine.allowanceEvents zone now = .ok told) :
    ∀ event ∈ told, event.concernsAllowance = true := by
  unfold allowanceEvents synchronizeTracker at charged
  split at charged
  · cases charged
    exact fun _ member => absurd member List.not_mem_nil
  · split at charged
    · contradiction
    · cases charged
      simp [Event.concernsAllowance]
    · cases charged
      split <;> simp [Event.concernsAllowance]

theorem filter_lifted_synchronize {now : Instant} {events : List Event}
    (told : (engine.synchronize zone now).2 = .ok events) :
    (events.filter fun event => !event.concernsAllowance) = (engine.lifted now).map .lifted := by
  obtain ⟨charged, found, rfl⟩ := synchronize_eq_ok_iff.mp told
  have apart : (charged.filter fun event => !event.concernsAllowance) = [] := by
    refine List.filter_eq_nil_iff.mpr fun event member => ?_
    rw [concernsAllowance_of_allowanceEvents found event member]
    exact Bool.false_ne_true
  rw [List.filter_append, filter_not_lifted, apart, List.append_nil]

theorem filter_concernsAllowance_synchronize {now : Instant} {events : List Event}
    (told : (engine.synchronize zone now).2 = .ok events) :
    engine.allowanceEvents zone now = .ok (events.filter Event.concernsAllowance) := by
  obtain ⟨charged, found, rfl⟩ := synchronize_eq_ok_iff.mp told
  rw [List.filter_append, filter_lifted_eq_nil, List.nil_append,
    List.filter_eq_self.mpr (concernsAllowance_of_allowanceEvents found), found]

/-- The invariant of a run for the tracker: it counts the allowance of `terms`, and has been
synchronized at the counted ones among `ticks` since `start`, when `first` was left. -/
structure Charges (zone : Zone) (terms : AllowancePolicy) (first : Duration) (start : Instant)
    (ticks : List Instant) (engine : Engine) (tracker : AllowanceTracker) : Prop where
  holds : engine.allowance = some tracker
  daily : engine.resetsDaily = terms.resetDaily
  allowance : tracker.allowance = terms.daily
  previous : tracker.previous = (terms.counted zone start ticks).getLastD start
  remaining : tracker.remaining.milliseconds =
    terms.left zone first start (terms.counted zone start ticks)

section Charges

variable {tracker : AllowanceTracker} {start : Instant} {ticks : List Instant}

theorem Charges.dated_iff (charges : Charges zone terms first start ticks engine tracker)
    (now : Instant) :
    tracker.Dated zone engine.resetsDaily now ↔
      (terms.isDated zone start && terms.isDated zone now) = true := by
  have last : terms.isDated zone tracker.previous = terms.isDated zone start := by
    rw [charges.previous, AllowancePolicy.isDated_getLastD_counted]
  rw [← last, charges.daily]
  unfold AllowanceTracker.Dated AllowancePolicy.isDated
  cases terms.resetDaily <;> simp

theorem Charges.rollsOver_eq (charges : Charges zone terms first start ticks engine tracker)
    (now : Instant) :
    (engine.resetsDaily && zone.localDate tracker.previous != zone.localDate now) =
      terms.rollsOver zone ((terms.counted zone start ticks).getLastD start, now) := by
  rw [charges.daily, charges.previous]
  rfl

/-- One `synchronize`: the tick is counted and charged, or it breaks off and leaves the tracker
alone. -/
theorem Charges.synchronize (charges : Charges zone terms first start ticks engine tracker)
    (now : Instant) :
    Charges zone terms first start (ticks ++ [now]) (engine.synchronize zone now).1
      (synchronizeTracker zone engine.resetsDaily tracker now).1 := by
  have holds : (engine.synchronize zone now).1.allowance =
      some (synchronizeTracker zone engine.resetsDaily tracker now).1 := by
    rw [synchronize_allowance, charges.holds]
    rfl
  have daily := (synchronize_settings zone engine now).1.trans charges.daily
  have allowance := (allowance_synchronizeTracker zone engine.resetsDaily tracker now).trans
    charges.allowance
  by_cases dated : tracker.Dated zone engine.resetsDaily now
  · have counts : terms.counted zone start (ticks ++ [now]) =
        terms.counted zone start ticks ++ [now] := by
      rw [AllowancePolicy.counted_concat, if_pos ((charges.dated_iff now).mp dated)]
    refine ⟨holds, daily, allowance, ?_, ?_⟩
    · rw [counts, previous_synchronizeTracker dated, List.getLastD_concat]
    · rw [counts, AllowancePolicy.left_concat, synchronizeTracker_of_dated dated,
        charges.rollsOver_eq]
      cases terms.rollsOver zone ((terms.counted zone start ticks).getLastD start, now) with
      | true => exact congrArg Duration.milliseconds charges.allowance
      | false =>
          have moved := Countdown.synchronize_remaining tracker.countdown now
          have before : tracker.countdown.remaining.milliseconds = _ := charges.remaining
          have since : tracker.countdown.previous = _ := charges.previous
          rw [before, since] at moved
          exact moved
  · have skips : terms.counted zone start (ticks ++ [now]) = terms.counted zone start ticks := by
      rw [AllowancePolicy.counted_concat, if_neg (mt (charges.dated_iff now).mpr dated),
        List.append_nil]
    rw [synchronizeTracker_of_undated dated] at holds ⊢
    exact ⟨holds, daily, charges.allowance, skips ▸ charges.previous, skips ▸ charges.remaining⟩

theorem Charges.events (charges : Charges zone terms first start ticks engine tracker)
    {now : Instant} (dated : (terms.isDated zone start && terms.isDated zone now) = true) :
    engine.allowanceEvents zone now =
      .ok (if terms.rollsOver zone ((terms.counted zone start ticks).getLastD start, now) then
          [.refilled terms.daily]
        else if 0 < terms.left zone first start (terms.counted zone start ticks) ∧
            terms.left zone first start (terms.counted zone start ticks ++ [now]) = 0 then
          [.exhausted terms.daily]
        else []) := by
  have found := (charges.dated_iff now).mpr dated
  have after := (charges.synchronize now).remaining
  rw [AllowancePolicy.counted_concat, if_pos dated] at after
  simp only [allowanceEvents, charges.holds]
  rw [synchronizeTracker_of_dated found, charges.rollsOver_eq] at after ⊢
  cases rolls : terms.rollsOver zone ((terms.counted zone start ticks).getLastD start, now) with
  | true => simp [charges.allowance]
  | false =>
      simp only [rolls, Bool.false_eq_true, if_false] at after ⊢
      have up : tracker.isUp = true ↔
          terms.left zone first start (terms.counted zone start ticks) = 0 := by
        rw [← charges.remaining]
        exact Countdown.isFinished_iff _
      have upNext : (tracker.synchronize now).isUp = true ↔
          terms.left zone first start (terms.counted zone start ticks ++ [now]) = 0 := by
        rw [← after]
        exact Countdown.isFinished_iff _
      rw [charges.allowance]
      refine congrArg Except.ok (if_congr ?_ rfl rfl)
      rw [Bool.and_eq_true_iff, Bool.not_eq_true', ← Bool.not_eq_true, up, upNext,
        Nat.pos_iff_ne_zero]

theorem Charges.next_of_no_tick {operation : Operation}
    (charges : Charges zone terms first start ticks engine tracker)
    (silent : operation.tick? = none) :
    Charges zone terms first start ticks (engine.next zone operation) tracker := by
  obtain ⟨table, after⟩ := Engine.next_of_no_tick zone engine silent
  rw [after]
  exact ⟨charges.holds, charges.daily, charges.allowance, charges.previous, charges.remaining⟩

theorem Charges.run (charges : Charges zone terms first start [] engine tracker)
    (operations : List Operation) :
    ∃ tracker, Charges zone terms first start (ticksOf operations)
      (engine.run zone operations).1 tracker := by
  induction operations using List.reverseRecOn with
  | nil => exact ⟨tracker, charges⟩
  | append_singleton before operation ih =>
      obtain ⟨tracker, charged⟩ := ih
      rw [run_concat, ticksOf_concat]
      cases operation with
      | synchronize now => exact ⟨_, charged.synchronize now⟩
      | decision | decisionAt | plead | rearm | start | insert | remove | save | restore =>
          simp only [Operation.tick?, Option.toList_none, List.append_nil]
          exact ⟨tracker, charged.next_of_no_tick rfl⟩

end Charges

theorem charges_initial (zone : Zone) (saved : Option AllowanceTracker) (begin : Instant)
    (given : policy.allowance = some terms) :
    Charges zone terms (terms.initialTracker zone begin saved).remaining begin []
      (initial zone policy saved begin) (terms.initialTracker zone begin saved) where
  holds := by simp [initial, given]
  daily := by simp [initial, given]
  allowance := (terms.initialTracker_sound zone begin saved).1
  previous := (terms.initialTracker_sound zone begin saved).2.1
  remaining := rfl

theorem eventsOf_answer_of_no_tick {operation : Operation} (zone : Zone) (engine : Engine)
    (silent : operation.tick? = none) : eventsOf [engine.answer zone operation] = [] := by
  have ofMap {α : Type} (result : Except Failure α) (f : α → Answer)
      (quiet : ∀ value, (f value).eventList = []) : eventsOf [result.map f] = [] := by
    cases result with
    | error failure => rfl
    | ok value => simp [eventsOf, Except.map, quiet]
  cases operation with
  | synchronize now => contradiction
  | decision | decisionAt | save | restore => rfl
  | plead | rearm | start | insert | remove => exact ofMap _ _ fun _ => rfl

theorem eventsOf_answer_synchronize (zone : Zone) (engine : Engine) (now : Instant) :
    eventsOf [engine.answer zone (.synchronize now)] =
      (engine.synchronize zone now).2.toOption.getD [] := by
  change eventsOf [(engine.synchronize zone now).2.map Answer.events] = _
  cases (engine.synchronize zone now).2 with
  | error failure => rfl
  | ok events => exact List.append_nil _

theorem eventsOf_append (left right : List (Except Failure Answer)) :
    eventsOf (left ++ right) = eventsOf left ++ eventsOf right :=
  List.flatMap_append

/-- One `synchronize`: it tells nothing about the allowance where it breaks off. -/
theorem Charges.alternate_synchronize {tracker : AllowanceTracker} {start : Instant}
    {ticks : List Instant} {told : List Event}
    (charges : Charges zone terms first start ticks engine tracker) (now : Instant)
    (alternate : Event.Alternate told
      (terms.left zone first start (terms.counted zone start ticks))) :
    Event.Alternate
      (told ++ ((engine.synchronize zone now).2.toOption.getD []).filter Event.concernsAllowance)
      (terms.left zone first start (terms.counted zone start (ticks ++ [now]))) := by
  rw [AllowancePolicy.counted_concat]
  cases synchronized : (engine.synchronize zone now).2 with
  | error failure =>
      have undated : ¬ tracker.Dated zone engine.resetsDaily now := fun dated =>
        (synchronize_eq_error_iff.mp synchronized).2 fun other held => by
          cases charges.holds.symm.trans held
          exact dated
      rw [if_neg (mt (charges.dated_iff now).mpr undated), List.append_nil]
      exact (List.append_nil told).symm ▸ alternate
  | ok events =>
      have dated := (charges.dated_iff now).mp (dated_of_synchronize synchronized _ charges.holds)
      have tells := filter_concernsAllowance_synchronize synchronized
      rw [charges.events dated] at tells
      simp only [Except.toOption, Option.getD_some, if_pos dated, ← Except.ok.inj tells,
        AllowancePolicy.left_concat]
      by_cases rolls : terms.rollsOver zone ((terms.counted zone start ticks).getLastD start, now)
      · simp only [rolls, if_true]
        exact alternate.refilled
      · simp only [rolls, Bool.false_eq_true, if_false]
        split
        · rename_i runsOut
          rw [runsOut.2]
          exact alternate.exhausted runsOut.1
        · rw [List.append_nil]
          exact alternate.less (Nat.sub_le ..)

theorem Charges.alternate {tracker : AllowanceTracker} {start : Instant}
    (charges : Charges zone terms first start [] engine tracker) (operations : List Operation) :
    Event.Alternate
      ((eventsOf (engine.run zone operations).2).filter Event.concernsAllowance)
      (terms.left zone first start (terms.counted zone start (ticksOf operations))) := by
  induction operations using List.reverseRecOn with
  | nil => exact ⟨.nil, fun last member => by cases member⟩
  | append_singleton before operation ih =>
      obtain ⟨tracker, charged⟩ := charges.run before
      rw [run_concat]
      simp only [eventsOf_append, List.filter_append, ticksOf_concat]
      cases tick : operation.tick? with
      | none =>
          simpa only [eventsOf_answer_of_no_tick zone _ tick, List.filter_nil, List.append_nil,
            Option.toList_none] using ih
      | some now =>
          obtain rfl := Operation.eq_synchronize_of_tick? tick
          rw [eventsOf_answer_synchronize]
          exact charged.alternate_synchronize now ih

theorem refilled_between {events before middle after : List Event} {earlier later : Duration}
    (chain : (events.filter Event.concernsAllowance).IsChain Event.Apart)
    (split : events = before ++ .exhausted earlier :: middle ++ .exhausted later :: after) :
    ∃ amount, .refilled amount ∈ middle := by
  by_contra absent
  have exhausted : ∀ event ∈ middle.filter Event.concernsAllowance, event.isExhausted = true := by
    intro event member
    obtain ⟨inMiddle, concerns⟩ := List.mem_filter.mp member
    cases event with
    | lifted id => contradiction
    | exhausted amount => rfl
    | refilled amount => exact absurd ⟨amount, inMiddle⟩ absent
  have parts : events.filter Event.concernsAllowance =
      before.filter Event.concernsAllowance ++
        (.exhausted earlier ::
          (middle.filter Event.concernsAllowance ++
            .exhausted later :: after.filter Event.concernsAllowance)) := by
    rw [split, List.append_assoc, List.filter_append, List.cons_append,
      List.filter_cons_of_pos rfl, List.filter_append, List.filter_cons_of_pos rfl]
  rw [parts] at chain
  have tail := (List.isChain_append.mp chain).2.1
  cases between : middle.filter Event.concernsAllowance with
  | nil =>
      rw [between] at tail
      exact (List.isChain_cons_cons.mp tail).1 ⟨rfl, rfl⟩
  | cons next rest =>
      rw [between] at tail
      exact (List.isChain_cons_cons.mp tail).1 ⟨rfl, exhausted next (by simp [between])⟩

/-- The allowance over any `run` of an engine of `ofPolicy`.  What is left is given by `left` for
the counted ticks alone.  A counted `synchronize` tells a refill if its local date is not that of
the counted tick before it, and otherwise that the allowance is exhausted if it runs out at that
tick; a `synchronize` for which a local date is missing breaks off and leaves the tracker alone.  No
other operation changes the allowance, and it is exhausted at most once between two refills.  Where
all local dates exist every tick is counted. -/
theorem allowance_run (given : policy.allowance = some terms)
    (built : ofPolicy zone policy saved begin = .ok engine) (operations : List Operation) :
    ∃ first tracker, engine.allowance = some first ∧
      (engine.run zone operations).1.allowance = some tracker ∧
      tracker.remaining.milliseconds =
        terms.left zone first.remaining begin (terms.counted zone begin (ticksOf operations)) ∧
      (∀ now, (terms.isDated zone begin && terms.isDated zone now) = true →
        ∃ events, ((engine.run zone operations).1.synchronize zone now).2 = .ok events ∧
          events.filter Event.concernsAllowance =
            if terms.rollsOver zone
                ((terms.counted zone begin (ticksOf operations)).getLastD begin, now) then
              [.refilled terms.daily]
            else if 0 < terms.left zone first.remaining begin
                  (terms.counted zone begin (ticksOf operations)) ∧
                terms.left zone first.remaining begin
                  (terms.counted zone begin (ticksOf operations) ++ [now]) = 0 then
              [.exhausted terms.daily]
            else []) ∧
      (∀ now, (terms.isDated zone begin && terms.isDated zone now) = false →
        ((engine.run zone operations).1.synchronize zone now).2 = .error .noLocalDate ∧
          ((engine.run zone operations).1.synchronize zone now).1.allowance = some tracker) ∧
      ((∀ instant ∈ begin :: ticksOf operations, terms.isDated zone instant = true) →
        terms.counted zone begin (ticksOf operations) = ticksOf operations) ∧
      (∀ operation : Operation, operation.tick? = none →
        ((engine.run zone operations).1.next zone operation).allowance =
          (engine.run zone operations).1.allowance) ∧
      ∀ before earlier middle later after,
        eventsOf (engine.run zone operations).2 =
          before ++ .exhausted earlier :: middle ++ .exhausted later :: after →
        ∃ amount, .refilled amount ∈ middle := by
  obtain ⟨_, _, rfl⟩ := ofPolicy_eq_ok_iff.mp built
  have charges := charges_initial zone saved begin given
  obtain ⟨tracker, charged⟩ := charges.run operations
  refine ⟨_, tracker, charges.holds, charged.holds, charged.remaining, fun now dated => ?_,
    fun now undated => ?_, AllowancePolicy.counted_eq_self, fun operation silent => ?_,
    fun before earlier middle later after split => ?_⟩
  · have tells := charged.events dated
    obtain ⟨events, told⟩ : ∃ events, _ = Except.ok events :=
      ⟨_, synchronize_eq_ok_iff.mpr ⟨_, tells, rfl⟩⟩
    refine ⟨events, told, ?_⟩
    rw [filter_concernsAllowance_synchronize told] at tells
    exact Except.ok.inj tells
  · have lacks : ¬ tracker.Dated zone _ now :=
      mt (charged.dated_iff now).mp (Bool.eq_false_iff.mp undated)
    rw [synchronize_of_undated fun dated => lacks (dated tracker charged.holds)]
    exact ⟨rfl, charged.holds⟩
  · exact (charged.next_of_no_tick silent).holds.trans charged.holds.symm
  · exact refilled_between (charges.alternate operations).chain split

/-- `synchronize` tells that two hours are exhausted at their last millisecond. -/
theorem evening_allowance_exhausted :
    ∃ events, (((initial .utc .evening none .epoch).run .utc
        [.synchronize ⟨7199999, by decide, by decide⟩, .plead "bedtime" .epoch]).1.synchronize .utc
          ⟨7200000, by decide, by decide⟩).2 = .ok events ∧
      events.filter Event.concernsAllowance = [.exhausted ⟨7200000, by decide⟩] := by
  obtain ⟨first, tracker, begun, _, _, told, _⟩ :=
    allowance_run rfl (ofPolicy_evening .utc .epoch)
      [.synchronize ⟨7199999, by decide, by decide⟩, .plead "bedtime" .epoch]
  cases begun
  obtain ⟨events, synchronized, concerning⟩ := told ⟨7200000, by decide, by decide⟩ (by decide)
  exact ⟨events, synchronized, concerning.trans (by decide)⟩

/-- `synchronize` breaks off an hour west of UTC in the first hour of the calendar.  Its day differs
from that of the epoch, and still the allowance is not refilled. -/
theorem firstHour_not_refilled :
    let engine := initial (.fixed (-60)) .evening none .epoch
    let now : Instant := ⟨-8334601228800000, by decide, by decide⟩
    engine.resetsDaily = true ∧
      Zone.localDate (.fixed (-60)) .epoch ≠ Zone.localDate (.fixed (-60)) now ∧
      (engine.synchronize (.fixed (-60)) now).2 = .error .noLocalDate ∧
      (engine.synchronize (.fixed (-60)) now).1.allowance = engine.allowance := by
  decide

end Engine

end Curfew
