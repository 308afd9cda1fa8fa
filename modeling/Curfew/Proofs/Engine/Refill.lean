import Curfew.Proofs.Engine.Allowance
import Curfew.Proofs.Time.Zone

namespace Curfew

/-! Refills by the calendar.  As long as the clock goes forward the local date does too, and
every date after the first one sees a single refill. -/

def Event.isRefilled : Event → Bool
  | .refilled _ => true
  | _ => false

namespace AllowancePolicy

/-- The local dates of the ticks at which the allowance is refilled. -/
def refillDates (zone : Zone) (terms : AllowancePolicy) (start : Instant)
    (ticks : List Instant) : List Date :=
  ((steps start ticks).filter (terms.rollsOver zone)).map fun step => zone.localDate step.2

variable {zone : Zone} {terms : AllowancePolicy} {start : Instant} {ticks : List Instant}

theorem rollsOver_iff (daily : terms.resetDaily = true) {earlier later : Instant} :
    terms.rollsOver zone (earlier, later) = true ↔
      zone.localDate earlier ≠ zone.localDate later := by
  simp [rollsOver, daily]

theorem refillDates_cons (tick : Instant) (rest : List Instant) :
    terms.refillDates zone start (tick :: rest) =
      (if terms.rollsOver zone (start, tick) then [zone.localDate tick] else []) ++
        terms.refillDates zone tick rest := by
  rw [refillDates, refillDates, steps, List.filter_cons]
  split <;> rfl

theorem refillDates_concat (now : Instant) :
    terms.refillDates zone start (ticks ++ [now]) =
      terms.refillDates zone start ticks ++
        if terms.rollsOver zone (ticks.getLastD start, now) then [zone.localDate now] else [] := by
  rw [refillDates, refillDates, steps_concat, List.filter_append, List.map_append,
    List.filter_cons]
  split <;> rfl

/-- With dates in order equal ones follow each other, so that only the first of them is new. -/
theorem count_refillDates (daily : terms.resetDaily = true)
    (ordered : ((start :: ticks).map zone.localDate).Pairwise (· ≤ ·)) (date : Date) :
    (terms.refillDates zone start ticks).count date =
      if date ≠ zone.localDate start ∧ date ∈ ticks.map zone.localDate then 1 else 0 := by
  induction ticks generalizing start with
  | nil => simp [refillDates, steps]
  | cons tick rest ih =>
      obtain ⟨above, later⟩ := List.pairwise_cons.mp ordered
      rw [refillDates_cons, List.count_append, ih later]
      by_cases rolls : zone.localDate start = zone.localDate tick
      · have stays : terms.rollsOver zone (start, tick) = false :=
          Bool.eq_false_iff.mpr fun rolled => (rollsOver_iff daily).mp rolled rolls
        rw [stays, rolls]
        by_cases same : date = zone.localDate tick <;> simp [same]
      · rw [(rollsOver_iff daily).mpr rolls]
        by_cases same : date = zone.localDate tick
        · subst same
          simp [Ne.symm rolls]
        · -- The first date does not come back once it has gone.
          have gone : date ∈ rest.map zone.localDate → date ≠ zone.localDate start := by
            rintro member rfl
            have back := List.rel_of_pairwise_cons later member
            exact rolls (le_antisymm (above _ (.head _)) back)
          have elsewhere : (date ≠ zone.localDate tick ∧ date ∈ rest.map zone.localDate) ↔
              date ≠ zone.localDate start ∧ date ∈ (tick :: rest).map zone.localDate := by
            rw [List.map_cons, List.mem_cons]
            constructor
            · rintro ⟨_, member⟩
              exact ⟨gone member, .inr member⟩
            · rintro ⟨_, member⟩
              exact ⟨same, member.resolve_left same⟩
          rw [if_pos rfl, List.count_singleton, if_neg (by simpa using Ne.symm same), Nat.zero_add]
          exact if_congr elsewhere rfl rfl

theorem mem_counted_dates_iff (daily : terms.resetDaily = true) {date : Date} :
    date ∈ (terms.counted zone start ticks).map zone.localDate ↔
      zone.hasDate start = true ∧ some date ∈ ticks.map zone.localDate? := by
  simp only [counted, isDated, daily, Bool.not_true, Bool.false_or, List.mem_map,
    List.mem_filter, Bool.and_eq_true, Zone.localDate?_eq_some_iff]
  constructor
  · rintro ⟨tick, ⟨member, begun, found⟩, same⟩
    exact ⟨begun, tick, member, found, same⟩
  · rintro ⟨begun, tick, member, found, same⟩
    exact ⟨tick, ⟨member, begun, found⟩, same⟩

end AllowancePolicy

theorem Zone.localDate?_ordered {zone : Zone} {instants : List Instant}
    (ordered : instants.Pairwise fun earlier later =>
      earlier.milliseconds ≤ later.milliseconds) :
    (instants.filterMap zone.localDate?).Pairwise (· ≤ ·) := by
  refine List.pairwise_filterMap.mpr (ordered.imp fun before date first date' second => ?_)
  obtain ⟨_, rfl⟩ := localDate?_eq_some_iff.mp first
  obtain ⟨_, rfl⟩ := localDate?_eq_some_iff.mp second
  exact zone.localDate_le before

namespace Engine

variable {zone : Zone} {policy : Policy} {terms : AllowancePolicy}
  {saved : Option AllowanceTracker} {begin : Instant} {engine : Engine} {first : Duration}

/-- The local date of the tick for every refill in the answers of a run. -/
def toldRefills (zone : Zone) (trace : List (Operation × Except Failure Answer)) : List Date :=
  trace.flatMap fun (operation, answer) =>
    ((eventsOf [answer]).filter Event.isRefilled).flatMap fun _ =>
      operation.tick?.toList.filterMap zone.localDate?

theorem toldRefills_of_no_tick {operation : Operation} (silent : operation.tick? = none) :
    toldRefills zone [(operation, engine.answer zone operation)] = [] := by
  simp [toldRefills, silent]

section Charges

variable {tracker : AllowanceTracker} {start : Instant} {ticks : List Instant}

theorem Charges.synchronize_eq_error_iff
    (charges : Charges zone terms first start ticks engine tracker)
    (daily : terms.resetDaily = true) (now : Instant) :
    (engine.synchronize zone now).2 = .error .noLocalDate ↔
      zone.localDate? start = none ∨ zone.localDate? now = none := by
  have dated : engine.Dated zone now ↔ tracker.Dated zone engine.resetsDaily now := by
    simp [Dated, charges.holds]
  rw [Engine.synchronize_eq_error_iff, dated, charges.dated_iff]
  simp [AllowancePolicy.isDated, daily, Zone.localDate?_eq_none_iff, imp_iff_not_or]

theorem Charges.refilled (charges : Charges zone terms first start ticks engine tracker)
    {now : Instant} {events : List Event} (told : (engine.synchronize zone now).2 = .ok events) :
    events.filter Event.isRefilled =
      if terms.rollsOver zone ((terms.counted zone start ticks).getLastD start, now) then
        [.refilled terms.daily]
      else [] := by
  have concerns : events.filter Event.isRefilled =
      (events.filter Event.concernsAllowance).filter Event.isRefilled := by
    rw [List.filter_filter]
    refine List.filter_congr fun event _ => ?_
    cases event <;> rfl
  have dated := (charges.dated_iff now).mp (dated_of_synchronize told _ charges.holds)
  have tells := filter_concernsAllowance_synchronize told
  rw [charges.events dated] at tells
  rw [concerns, ← Except.ok.inj tells]
  split
  · rfl
  · split <;> rfl

theorem Charges.toldRefills_synchronize
    (charges : Charges zone terms first start ticks engine tracker) (now : Instant) :
    terms.refillDates zone start (terms.counted zone start (ticks ++ [now])) =
      terms.refillDates zone start (terms.counted zone start ticks) ++
        toldRefills zone [(.synchronize now, engine.answer zone (.synchronize now))] := by
  rw [AllowancePolicy.counted_concat]
  simp only [toldRefills, List.flatMap_cons, List.flatMap_nil, List.append_nil,
    eventsOf_answer_synchronize, Operation.tick?, Option.toList_some]
  cases told : (engine.synchronize zone now).2 with
  | error failure =>
      have undated := mt (charges.dated_iff now).mpr fun dated =>
        (Engine.synchronize_eq_error_iff.mp told).2 fun tracker held => by
          cases charges.holds.symm.trans held
          exact dated
      simp [undated, Except.toOption]
  | ok events =>
      have dated := (charges.dated_iff now).mp (dated_of_synchronize told _ charges.holds)
      rw [if_pos dated, AllowancePolicy.refillDates_concat]
      simp only [Except.toOption, Option.getD_some, charges.refilled told]
      by_cases rolls : terms.rollsOver zone ((terms.counted zone start ticks).getLastD start, now)
      · -- Only an allowance that is refilled daily rolls over, and then the date exists.
        have daily : terms.resetDaily = true := (Bool.and_eq_true_iff.mp rolls).1
        have found : zone.localDate? now = some (zone.localDate now) := by
          simp only [AllowancePolicy.isDated, daily, Bool.not_true, Bool.false_or,
            Bool.and_eq_true] at dated
          exact Zone.localDate?_eq_some_iff.mpr ⟨dated.2, rfl⟩
        rw [if_pos rolls, if_pos rolls]
        simp [found]
      · rw [if_neg rolls, if_neg rolls]
        rfl

/-- The refills in the answers of a run are those at the counted ticks. -/
theorem Charges.toldRefills (charges : Charges zone terms first start [] engine tracker)
    (operations : List Operation) :
    toldRefills zone (engine.trace zone operations) =
      terms.refillDates zone start (terms.counted zone start (ticksOf operations)) := by
  induction operations using List.reverseRecOn with
  | nil => rfl
  | append_singleton before operation ih =>
      obtain ⟨tracker, charged⟩ := charges.run before
      have appended : ∀ left right, Engine.toldRefills zone (left ++ right) =
          Engine.toldRefills zone left ++ Engine.toldRefills zone right :=
        fun _ _ => List.flatMap_append
      rw [trace_concat, ticksOf_concat, appended, ih]
      cases tick : operation.tick? with
      | none => rw [toldRefills_of_no_tick tick, Option.toList_none, List.append_nil, List.append_nil]
      | some now =>
          obtain rfl := Operation.eq_synchronize_of_tick? tick
          exact (charged.toldRefills_synchronize _).symm

theorem Charges.answers (charges : Charges zone terms first start [] engine tracker)
    (daily : terms.resetDaily = true) (operations : List Operation) :
    ∀ now answer, (Operation.synchronize now, answer) ∈ engine.trace zone operations →
      (answer = .error .noLocalDate ↔
        zone.localDate? start = none ∨ zone.localDate? now = none) := by
  induction operations using List.reverseRecOn with
  | nil => exact fun _ _ member => absurd member List.not_mem_nil
  | append_singleton before operation ih =>
      obtain ⟨tracker, charged⟩ := charges.run before
      intro now answer member
      rw [trace_concat] at member
      rcases List.mem_append.mp member with earlier | last
      · exact ih now answer earlier
      · cases List.mem_singleton.mp last
        rw [← charged.synchronize_eq_error_iff daily now]
        change (((engine.run zone before).1.synchronize zone now).2.map Answer.events) = _ ↔ _
        cases ((engine.run zone before).1.synchronize zone now).2 <;> simp [Except.map]

end Charges

/-- A `run` of an engine with `resetsDaily`, in any zone, whose clock does not go back.  The local
dates of its ticks never decrease.  If the engine was built on a date of the calendar, every other
date with a tick has exactly one refill, and dates without a tick and that of the beginning have
none.  A `synchronize` breaks off exactly if its own local date or that of the beginning is missing.
-/
theorem refill_once_a_day (given : policy.allowance = some terms)
    (daily : terms.resetDaily = true) (built : ofPolicy zone policy saved begin = .ok engine)
    (operations : List Operation)
    (ordered : (begin :: ticksOf operations).Pairwise fun earlier later =>
      earlier.milliseconds ≤ later.milliseconds) :
    ((begin :: ticksOf operations).filterMap zone.localDate?).Pairwise (· ≤ ·) ∧
      (∀ date, (toldRefills zone (engine.trace zone operations)).count date =
        if (∃ first ∈ zone.localDate? begin, date ≠ first) ∧
            some date ∈ (ticksOf operations).map zone.localDate? then 1
        else 0) ∧
      ∀ now answer, (.synchronize now, answer) ∈ engine.trace zone operations →
        (answer = .error .noLocalDate ↔
          zone.localDate? begin = none ∨ zone.localDate? now = none) := by
  obtain ⟨_, _, rfl⟩ := ofPolicy_eq_ok_iff.mp built
  have charges := charges_initial zone saved begin given
  refine ⟨Zone.localDate?_ordered ordered, fun date => ?_, charges.answers daily operations⟩
  have dates : ((begin :: terms.counted zone begin (ticksOf operations)).map
      zone.localDate).Pairwise (· ≤ ·) :=
    List.pairwise_map.mpr
      ((ordered.sublist (List.filter_sublist.cons_cons begin)).imp zone.localDate_le)
  rw [charges.toldRefills operations, AllowancePolicy.count_refillDates daily dates date]
  refine if_congr ?_ rfl rfl
  rw [AllowancePolicy.mem_counted_dates_iff daily]
  simp only [Option.mem_def, Zone.localDate?_eq_some_iff]
  constructor
  · rintro ⟨other, begun, member⟩
    exact ⟨⟨_, ⟨begun, rfl⟩, other⟩, member⟩
  · rintro ⟨⟨_, ⟨begun, rfl⟩, other⟩, member⟩
    exact ⟨other, begun, member⟩

/-- Half past one comes twice on the day on which clocks are put back, and `run` tells one refill.
-/
theorem evening_refilled_once :
    (toldRefills .usEastern
      ((initial .usEastern .evening none ⟨1762012800000, by decide, by decide⟩).trace .usEastern
        [.synchronize ⟨1762061400000, by decide, by decide⟩,
          .synchronize ⟨1762065000000, by decide, by decide⟩, .rearm "bedtime",
          .synchronize ⟨1762144200000, by decide, by decide⟩,
          .synchronize ⟨1762147800000, by decide, by decide⟩])).count ⟨2025, 11, 2⟩ = 1 := by
  obtain ⟨_, refills, _⟩ :=
    refill_once_a_day rfl rfl
      (ofPolicy_evening .usEastern ⟨1762012800000, by decide, by decide⟩)
      [.synchronize ⟨1762061400000, by decide, by decide⟩,
        .synchronize ⟨1762065000000, by decide, by decide⟩, .rearm "bedtime",
        .synchronize ⟨1762144200000, by decide, by decide⟩,
        .synchronize ⟨1762147800000, by decide, by decide⟩] (by decide)
  exact (refills ⟨2025, 11, 2⟩).trans (by decide)

/-- An engine built in the first hour of the calendar, an hour west of UTC: `synchronize` at the
epoch, on the last day of 1969, breaks off, and that day has no refill. -/
theorem firstHour_never_refilled :
    let begin : Instant := ⟨-8334601228800000, by decide, by decide⟩
    let engine := initial (.fixed (-60)) .evening none begin
    begin.milliseconds ≤ Instant.epoch.milliseconds ∧
      Zone.localDate? (.fixed (-60)) .epoch = some ⟨1969, 12, 31⟩ ∧
      Zone.localDate (.fixed (-60)) begin ≠ ⟨1969, 12, 31⟩ ∧
      (engine.run (.fixed (-60)) [.synchronize .epoch]).2 = [.error .noLocalDate] ∧
      toldRefills (.fixed (-60)) (engine.trace (.fixed (-60)) [.synchronize .epoch]) = [] := by
  decide

end Engine

end Curfew
