import Curfew.Config.Policy
import Curfew.Proofs.Config.Days
import Curfew.Proofs.Config.Validation
import Curfew.Proofs.Time.ClockText
import Curfew.Proofs.Time.DailyWindow

namespace Curfew

/-! What a configuration says, without anything put in its place, and that a configuration
without problems is used so.  The one exception is an interval between ticks that is longer
than the longest span: it is not reported, and the default is used. -/

inductive RawActivator.Means : RawActivator → Activator → Prop where
  | always : Means .always .always
  | weekly {days : DaySpec} {opens closes : String} {weekdays : WeekdaySet}
      {opening closing : TimeOfDay} {window : DailyWindow} (listed : days.Means weekdays)
      (someDay : ∃ day, weekdays.contains day = true)
      (opened : ClockText.Written opens.toList opening)
      (closed : ClockText.Written closes.toList closing)
      (between : window.Between opening closing) :
      Means (.weekly days opens closes) (.weekly weekdays window)

/-- The set and the window in `Means` are those that `resolve`, `ClockText.read` and `ofTimes` give.
-/
theorem RawActivator.means_weekly_iff {days : DaySpec} {opens closes : String}
    {activator : Activator} :
    Means (.weekly days opens closes) activator ↔
      ∃ weekdays opening closing, days.resolve = .ok weekdays ∧ weekdays.isEmpty = false ∧
        ClockText.read opens.toList = .ok opening ∧ ClockText.read closes.toList = .ok closing ∧
        activator = .weekly weekdays (.ofTimes opening closing) := by
  simp only [DaySpec.resolve_eq_ok_iff, WeekdaySet.isEmpty_eq_false_iff,
    ClockText.read_eq_ok_iff]
  constructor
  · intro means
    cases means with
    | @weekly _ _ _ weekdays opening closing _ listed someDay opened closed between =>
        exact ⟨weekdays, opening, closing, listed, someDay, opened, closed,
          congrArg _ (DailyWindow.between_iff.mp between)⟩
  · rintro ⟨weekdays, opening, closing, listed, someDay, opened, closed, rfl⟩
    exact .weekly listed someDay opened closed (DailyWindow.between_iff.mpr rfl)

inductive RawProtector.Means : RawProtector → ProtectorPolicy → Prop where
  | timed {minutes : Nat} {span : Duration} {startImmediately : Bool}
      (exact : span.milliseconds = minutes * 60000) :
      Means (.timed minutes startImmediately) (.timed span startImmediately)
  | plea {minutes : Nat} {span : Duration} (exact : span.milliseconds = minutes * 60000) :
      Means (.plea minutes) (.plea span)

structure RawRule.Means (rule : RawRule) (freshId : String) (policy : RulePolicy) : Prop where
  id : policy.id = rule.id.getD freshId
  label : policy.label = rule.label.getD policy.id
  activator : rule.activator.Means policy.activator
  protector : rule.protector.Means policy.protector

structure RawAllowance.Means (allowance : RawAllowance) (policy : AllowancePolicy) : Prop where
  daily : policy.daily.milliseconds = allowance.dailyMinutes * 60000
  resetDaily : policy.resetDaily = allowance.resetDaily

/-- The policy has the fields of the configuration, and the defaults where these are absent. -/
structure RawDaemon.Means (daemon : RawDaemon) (policy : DaemonPolicy) : Prop where
  tickInterval :
    policy.tickInterval.milliseconds = (daemon.tickIntervalSeconds.map (· * 1000)).getD 30000
  dataDir : policy.dataDir = daemon.dataDir
  storage : policy.storage = daemon.storage.getD .file
  blockPolicy : policy.blockPolicy = daemon.blockPolicy.getD .any
  maxRules : policy.maxRules = daemon.maxRules.getD 64

theorem minutesOrLongest_exact {minutes : Nat} {span : Duration}
    (made : Duration.ofUnits .minutes minutes = .ok span) :
    (minutesOrLongest minutes).milliseconds = minutes * 60000 := by
  rw [minutesOrLongest, made]
  exact Duration.ofUnits_eq_ok_iff.mp made

theorem RawRule.activator_means {rule : RawRule} (valid : rule.problems = []) :
    rule.activator.Means rule.activator.toActivator := by
  have unreported : rule.activatorProblems = [] := by
    simp only [problems, List.append_eq_nil_iff] at valid
    exact valid.1.2
  cases written : rule.activator with
  | always => exact .always
  | weekly days opens closes =>
      simp only [activatorProblems, written, List.append_eq_nil_iff] at unreported
      obtain ⟨⟨goodDays, goodOpening⟩, goodClosing⟩ := unreported
      obtain ⟨weekdays, resolved, someDay⟩ := dayProblems_eq_nil_iff.mp goodDays
      obtain ⟨opening, opened⟩ := timeProblems_eq_nil_iff.mp goodOpening
      obtain ⟨closing, closed⟩ := timeProblems_eq_nil_iff.mp goodClosing
      have used : (RawActivator.weekly days opens closes).toActivator =
          .weekly weekdays (.ofTimes opening closing) := by
        simp only [RawActivator.toActivator, RawActivator.daysOrNone,
          RawActivator.timeOrMidnight, resolved, opened, closed]
      rw [used]
      exact RawActivator.means_weekly_iff.mpr
        ⟨weekdays, opening, closing, resolved, someDay, opened, closed, rfl⟩

theorem RawRule.protector_means {rule : RawRule} (valid : rule.problems = []) :
    rule.protector.Means rule.protector.toPolicy := by
  have unreported : rule.protectorProblems = [] := by
    simp only [problems, List.append_eq_nil_iff] at valid
    exact valid.2
  obtain ⟨_, span, made⟩ := protectorProblems_eq_nil_iff.mp unreported
  cases written : rule.protector with
  | timed minutes startImmediately =>
      rw [written] at made
      exact .timed (minutesOrLongest_exact made)
  | plea minutes =>
      rw [written] at made
      exact .plea (minutesOrLongest_exact made)

theorem RawRule.means_toPolicy {rule : RawRule} (freshId : String)
    (valid : rule.problems = []) : rule.Means freshId (rule.toPolicy freshId) where
  id := rfl
  label := rfl
  activator := activator_means valid
  protector := protector_means valid

theorem RawAllowance.means_toPolicy {allowance : RawAllowance}
    (within : allowance.dailyMinutes ≤ maxDailyMinutes) :
    allowance.Means allowance.toPolicy := by
  have fits : allowance.dailyMinutes ≤ TimeUnit.minutes.maximum :=
    Nat.le_trans within (by decide)
  obtain ⟨span, made⟩ := Duration.ofUnits_eq_ok_of_le fits
  exact ⟨minutesOrLongest_exact made, rfl⟩

theorem RawDaemon.means_toPolicy_iff (daemon : RawDaemon) :
    daemon.Means daemon.toPolicy ↔
      ∀ seconds ∈ daemon.tickIntervalSeconds, seconds ≤ TimeUnit.seconds.maximum := by
  constructor
  · intro means seconds given
    refine Decidable.byContradiction fun above => ?_
    have replaced : daemon.tickInterval = defaultTickInterval := by
      rw [tickInterval, given, Option.map_some, Duration.ofUnits, dif_neg above]
    have written : daemon.tickInterval.milliseconds = seconds * 1000 := by
      have means := means.tickInterval
      rw [given] at means
      exact means
    rw [replaced] at written
    -- What does not fit into a span is longer than the default that replaces it.
    have long : TimeUnit.seconds.maximum * 1000 < seconds * 1000 := by omega
    rw [← written] at long
    exact absurd long (by decide)
  · intro fits
    refine ⟨?_, rfl, rfl, rfl, rfl⟩
    change daemon.tickInterval.milliseconds = _
    cases given : daemon.tickIntervalSeconds with
    | none =>
        rw [tickInterval, given]
        rfl
    | some seconds =>
        obtain ⟨span, made⟩ := Duration.ofUnits_eq_ok_of_le (fits seconds given)
        rw [tickInterval, given, Option.map_some, made]
        exact Duration.ofUnits_eq_ok_iff.mp made

namespace RawConfig

variable {config : RawConfig}

theorem allowance_means (valid : config.problems = []) :
    Option.Rel RawAllowance.Means config.allowance
      (config.allowance.map RawAllowance.toPolicy) := by
  have bounds := allowanceProblems_eq_nil_iff.mp (problems_eq_nil_iff.mp valid).2.2.1
  cases given : config.allowance with
  | none => exact .none
  | some allowance => exact .some (RawAllowance.means_toPolicy (bounds allowance given).2)

theorem rule_means (freshId : Nat → String) (valid : config.problems = []) {position : Nat}
    {rule : RawRule} (written : config.rules[position]? = some rule) :
    ∃ policy, (config.toPolicy freshId).rules[position]? = some policy ∧
      rule.Means (freshId position) policy := by
  have unreported := (problems_eq_nil_iff.mp valid).2.2.2.2 rule (List.mem_of_getElem? written)
  refine ⟨rule.toPolicy (freshId position), ?_, rule.means_toPolicy _ unreported⟩
  simp [toPolicy, List.getElem?_mapIdx, written]

/-- `toPolicy` keeps every field of a configuration without problems, rule by rule in their order.
The interval between ticks is kept exactly if it is not above the longest span; a longer one is
replaced by the default although `problems` reports nothing. -/
theorem toPolicy_means (config : RawConfig) (freshId : Nat → String)
    (valid : config.problems = []) :
    (config.daemon.Means (config.toPolicy freshId).daemon ↔
        ∀ seconds ∈ config.daemon.tickIntervalSeconds, seconds ≤ TimeUnit.seconds.maximum) ∧
      Option.Rel RawAllowance.Means config.allowance (config.toPolicy freshId).allowance ∧
      (config.toPolicy freshId).rules.length = config.rules.length ∧
      ∀ (position : Nat) (rule : RawRule), config.rules[position]? = some rule →
        ∃ policy, (config.toPolicy freshId).rules[position]? = some policy ∧
          rule.Means (freshId position) policy := by
  refine ⟨config.daemon.means_toPolicy_iff, allowance_means valid, ?_, ?_⟩
  · exact List.length_mapIdx
  · intro position rule written
    exact rule_means freshId valid written

/-- A rule on days by their names and one on a preset. -/
def schoolNights : RawConfig where
  version := 1
  daemon := { tickIntervalSeconds := some 60 }
  allowance := some { dailyMinutes := 120 }
  rules :=
    [⟨some "bedtime", some "Bedtime", .weekly (.list ["Mon", "tuesday"]) "7:30 PM" "06:00",
        .plea 30⟩,
      ⟨none, none, .weekly (.preset "Weekends") "12:00 AM" "23:59", .timed 90 true⟩]

/-- `toPolicy` on both kinds of days, with an id and a label and without. -/
theorem schoolNights_means :
    schoolNights.daemon.Means ⟨⟨60000, by decide⟩, none, .file, .any, 64⟩ ∧
      Option.Rel RawAllowance.Means (some ⟨120, true⟩) (some ⟨⟨7200000, by decide⟩, true⟩) ∧
      RawRule.Means
        ⟨some "bedtime", some "Bedtime", .weekly (.list ["Mon", "tuesday"]) "7:30 PM" "06:00",
          .plea 30⟩ "new"
        ⟨"bedtime", "Bedtime", .weekly ⟨3#7⟩ (.ofTimes ⟨70200000, by decide⟩ ⟨21600000, by decide⟩),
          .plea ⟨1800000, by decide⟩⟩ := by
  obtain ⟨daemon, allowance, _, rules⟩ := toPolicy_means schoolNights (fun _ => "new") (by decide)
  have fits : ∀ seconds ∈ schoolNights.daemon.tickIntervalSeconds,
      seconds ≤ TimeUnit.seconds.maximum := by
    rintro _ ⟨⟩
    decide
  obtain ⟨_, ⟨⟩, first⟩ := rules 0 _ rfl
  exact ⟨daemon.mpr fits, allowance, first⟩

/-- `problems` reports nothing about an interval of one second more than the longest span, and
`toPolicy` uses the default of half a minute. -/
theorem slowTicks_replaced :
    let slow : RawConfig := { version := 1, daemon := { tickIntervalSeconds := some 9007199254741 } }
    slow.problems = [] ∧ (slow.toPolicy fun _ => "").daemon.tickInterval.milliseconds = 30000 := by
  decide

end RawConfig

end Curfew
