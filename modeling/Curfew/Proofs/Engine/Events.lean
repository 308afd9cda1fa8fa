import Curfew.Proofs.Engine.Arrangement
import Curfew.Proofs.Engine.Lift
import Curfew.Proofs.Engine.Ticks

namespace Curfew

/-! The events of a synchronization.  Nothing that a decision goes by changes without one, and
doing it again at the same instant changes nothing at all, whatever the clock has shown before. -/

namespace RuleGroup

variable {group : RuleGroup} {day : Weekday} {time : TimeOfDay}

/-- Which rules protect and apply at a day and time. -/
def flags (group : RuleGroup) (day : Weekday) (time : TimeOfDay) : Table Bool :=
  group.rules.map fun _ rule => rule.isEffective day time

theorem effective_eq_flags :
    group.effective day time =
      ((group.flags day time).entries.filter Prod.snd).map Prod.fst := by
  simp [effective, flags, Table.map, List.filter_map, Function.comp_def]

theorem anyEffective_eq_flags :
    group.anyEffective day time = (group.flags day time).entries.any Prod.snd := by
  simp [anyEffective, flags, Table.map, Function.comp_def]

theorem allEffective_eq_flags :
    group.allEffective day time =
      (!(group.flags day time).isEmpty && (group.flags day time).entries.all Prod.snd) := by
  simp [allEffective, isEmpty, Table.isEmpty, flags, Table.map, Function.comp_def]

end RuleGroup

theorem Countdown.synchronize_eq_self {countdown : Countdown} {now : Instant}
    (current : countdown.previous = now) : countdown.synchronize now = countdown := by
  refine ext_fields ?_ current.symm
  rw [synchronize_remaining, current]
  omega

theorem Protector.synchronize_eq_self {protector : Protector} {now : Instant}
    (current : ∀ countdown ∈ protector.countdown?,
      countdown.previous = now ∧ countdown.isFinished = false) :
    protector.synchronize now = protector := by
  cases protector with
  | timed timed =>
      obtain ⟨duration, running⟩ := timed
      cases running with
      | none => rfl
      | some countdown =>
          obtain ⟨previous, left⟩ := current countdown rfl
          have stays := Countdown.synchronize_eq_self previous
          simp [synchronize, TimedProtector.synchronize, TimedProtector.resumed, Option.filter,
            stays, left]
  | plea plea =>
      obtain ⟨grace, status⟩ := plea
      cases status with
      | activated | deactivated => rfl
      | deactivating countdown =>
          obtain ⟨previous, left⟩ := current countdown rfl
          have stays := Countdown.synchronize_eq_self previous
          simp [synchronize, PleaProtector.synchronize, PleaProtector.resumed, PleaStatus.settled,
            stays, left]

theorem Protector.synchronize_again (protector : Protector) (now : Instant) :
    (protector.synchronize now).synchronize now = protector.synchronize now := by
  refine synchronize_eq_self fun countdown counting => ⟨previous_of_synchronize counting, ?_⟩
  rw [countdown?_synchronize] at counting
  simpa using (Option.filter_eq_some_iff.mp counting).2

namespace Engine

variable {zone : Zone} {engine other : Engine} {now : Instant} {day : Weekday} {time : TimeOfDay}

theorem decision_congr (rules : other.rules.flags day time = engine.rules.flags day time)
    (blockPolicy : other.blockPolicy = engine.blockPolicy)
    (allowance : other.allowanceReasons = engine.allowanceReasons) :
    other.decision day time = engine.decision day time := by
  have effective : other.rules.effective day time = engine.rules.effective day time := by
    rw [RuleGroup.effective_eq_flags, RuleGroup.effective_eq_flags, rules]
  have block : other.rulesBlock day time = engine.rulesBlock day time := by
    rw [rulesBlock, rulesBlock, blockPolicy]
    cases engine.blockPolicy with
    | any =>
        dsimp only
        rw [RuleGroup.anyEffective_eq_flags, RuleGroup.anyEffective_eq_flags, rules]
    | all =>
        dsimp only
        rw [RuleGroup.allEffective_eq_flags, RuleGroup.allEffective_eq_flags, rules]
  rw [decision, decision, ruleReasons, ruleReasons, block, effective, allowance]

theorem flags_synchronize (silent : engine.lifted now = []) (day : Weekday) (time : TimeOfDay) :
    (engine.rules.synchronize now).flags day time = engine.rules.flags day time := by
  refine Table.ext_get? fun id => ?_
  simp only [RuleGroup.flags, RuleGroup.synchronize, Table.get?_map, Option.map_map]
  cases found : engine.rules.rules.get? id with
  | none => rfl
  | some rule =>
      have stays : (rule.protector.synchronize now).protects = rule.protector.protects := by
        have notLifted : id ∉ engine.lifted now := by simp [silent]
        rw [lifted, Table.mem_keys_filter_iff] at notLifted
        have kept : rule.protects = true → (rule.synchronize now).protects = true := by
          simpa [found] using notLifted
        exact Bool.eq_iff_iff.mpr ⟨Protector.protects_of_synchronize, kept⟩
      simp [Rule.isEffective, Rule.protects, Rule.synchronize, stays]

theorem allowanceReasons_synchronize (silent : engine.allowanceEvents zone now = .ok []) :
    (engine.synchronize zone now).1.allowanceReasons = engine.allowanceReasons := by
  rw [synchronize_eq]
  unfold allowanceEvents at silent
  unfold allowanceReasons
  cases held : engine.allowance with
  | none => rfl
  | some tracker =>
      rw [held] at silent
      simp only [Option.map_some, synchronizeTracker] at silent ⊢
      generalize tracker.isStale? zone engine.resetsDaily now = stale at silent ⊢
      rcases stale with _ | _ | _
      · contradiction
      · have goesOn : tracker.isUp = true → (tracker.synchronize now).isUp = true :=
          AllowanceTracker.isUp_synchronize
        have isUp : (tracker.synchronize now).isUp = tracker.isUp := by
          cases before : tracker.isUp <;> simp_all
        simp only [isUp]
        rfl
      · simp at silent

theorem length_allowanceEvents_le {told : List Event}
    (charged : engine.allowanceEvents zone now = .ok told) : told.length ≤ 1 := by
  unfold allowanceEvents synchronizeTracker at charged
  split at charged
  · cases charged
    exact Nat.zero_le _
  · split at charged
    · contradiction
    · cases charged
      exact Nat.le_refl _
    · cases charged
      split <;> simp

theorem decision_synchronize (silent : (engine.synchronize zone now).2 = .ok []) (day : Weekday)
    (time : TimeOfDay) :
    (engine.synchronize zone now).1.decision day time = engine.decision day time := by
  obtain ⟨told, charged, none⟩ := synchronize_eq_ok_iff.mp silent
  obtain ⟨lifted, rfl⟩ := List.append_eq_nil_iff.mp none.symm
  refine decision_congr ?_ (synchronize_settings zone engine now).2.1
    (allowanceReasons_synchronize charged)
  rw [rules_synchronize]
  exact flags_synchronize (List.map_eq_nil_iff.mp lifted) day time

theorem synchronizeTracker_eq_self {daily : Bool} {tracker : AllowanceTracker}
    (current : tracker.previous = now) (dated : tracker.Dated zone daily now) :
    synchronizeTracker zone daily tracker now = (tracker, .ok []) := by
  have stays : tracker.synchronize now = tracker :=
    congrArg (AllowanceTracker.mk tracker.allowance) (Countdown.synchronize_eq_self current)
  rw [synchronizeTracker_of_dated dated, stays, current]
  simp

theorem synchronize_again (dated : engine.Dated zone now) :
    (engine.synchronize zone now).1.synchronize zone now =
      ((engine.synchronize zone now).1, .ok []) := by
  have rules : (engine.synchronize zone now).1.rules.synchronize now =
      (engine.synchronize zone now).1.rules := by
    rw [rules_synchronize]
    refine congrArg (RuleGroup.mk · engine.rules.capacity) (Table.ext_get? fun id => ?_)
    simp [RuleGroup.synchronize, Function.comp_def, Rule.synchronize, Protector.synchronize_again]
  have lifted : (engine.synchronize zone now).1.lifted now = [] := by
    refine List.eq_nil_iff_forall_not_mem.mpr fun id member => ?_
    obtain ⟨before, after⟩ : _ ∧
        ((engine.synchronize zone now).1.synchronize zone now).1.protects id = false :=
      mem_lifted_iff.mp member
    rw [protects, rule?, rules_synchronize, rules] at after
    cases before.symm.trans after
  have current : ∀ tracker ∈ (engine.synchronize zone now).1.allowance,
      tracker.previous = now := by
    intro tracker held
    rw [synchronize_allowance] at held
    obtain ⟨before, given, rfl⟩ := Option.map_eq_some_iff.mp held
    exact previous_synchronizeTracker (dated before given)
  have still := (dated_synchronize_iff zone engine now now).mpr dated
  rw [synchronize_eq zone (engine.synchronize zone now).1 now, rules, lifted, allowanceEvents]
  generalize (engine.synchronize zone now).1 = after at current still ⊢
  obtain ⟨group, _ | tracker, daily, block⟩ := after
  · rfl
  · simp [synchronizeTracker_eq_self (current tracker rfl) (still tracker rfl), Except.map]

/-- `synchronize` breaks off exactly where a local date is missing that the allowance has to be
compared by, and has then moved the rules on and nothing else.  Otherwise it tells the rules that
stop protecting, ascending by id, and after them at most one event about the allowance.  If it tells
nothing, `decision` is unchanged at every day and time; a second `synchronize` at the same instant
tells nothing and changes nothing. -/
theorem synchronize_exact (zone : Zone) (engine : Engine) (now : Instant) :
    (∀ failure, (engine.synchronize zone now).2 = .error failure ↔
      failure = .noLocalDate ∧ engine.resetsDaily = true ∧
        ∃ tracker, engine.allowance = some tracker ∧
          (zone.hasDate tracker.previous = false ∨ zone.hasDate now = false)) ∧
    (∀ failure, (engine.synchronize zone now).2 = .error failure →
      (engine.synchronize zone now).1 =
        { engine with rules := engine.rules.synchronize now }) ∧
    ∀ after events, engine.synchronize zone now = (after, .ok events) →
      (∃ (ids : List String) (told : List Event), events = ids.map .lifted ++ told ∧
        ids.Pairwise (· < ·) ∧
        (∀ id, id ∈ ids ↔ engine.protects id = true ∧ after.protects id = false) ∧
        told.length ≤ 1 ∧ ∀ event ∈ told, event.concernsAllowance = true) ∧
      (∀ arrangement : Arrangement, arrangement.Arranges engine →
        (arrangement.synchronize zone now).2 = .ok events) ∧
      (events = [] → ∀ day time, after.decision day time = engine.decision day time) ∧
      after.synchronize zone now = (after, .ok []) := by
  refine ⟨fun failure => ?_, fun failure failed => ?_, fun after events synchronized => ?_⟩
  · rw [synchronize_eq_error_iff, not_dated_iff]
  · rw [synchronize_of_undated (synchronize_eq_error_iff.mp failed).2]
  · have told : (engine.synchronize zone now).2 = .ok events := congrArg Prod.snd synchronized
    cases congrArg Prod.fst synchronized
    refine ⟨?_, fun _ arranges => (arranges.synchronize zone now).2.trans told, fun none => ?_,
      synchronize_again (dated_of_synchronize told)⟩
    · obtain ⟨charged, found, rfl⟩ := synchronize_eq_ok_iff.mp told
      exact ⟨engine.lifted now, charged, rfl, pairwise_lifted engine now,
        fun id => mem_lifted_iff, length_allowanceEvents_le found,
        concernsAllowance_of_allowanceEvents found⟩
    · exact decision_synchronize (none ▸ told)

/-- `synchronize` breaks off an hour west of UTC in the first hour of the calendar, which belongs to
no local date there. -/
theorem evening_breaks_off :
    ((initial (.fixed (-60)) { Policy.evening with rules := [] } none .epoch).synchronize
      (.fixed (-60)) ⟨-8334601228800000, by decide, by decide⟩).2 = .error .noLocalDate := by
  decide

end Engine

end Curfew
