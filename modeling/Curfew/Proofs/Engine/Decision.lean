import Curfew.Proofs.Engine.Arrangement
import Curfew.Proofs.Engine.WellFormed

namespace Curfew

/-! An access decision told by the rules one by one: which of them are reasons, and when the
allowance is one. -/

theorem Decision.reasons_ofReasons (reasons : List BlockReason) :
    (ofReasons reasons).reasons = reasons := by
  cases reasons <;> rfl

theorem Decision.isBlocked_ofReasons_iff {reasons : List BlockReason} :
    (ofReasons reasons).isBlocked = true ↔ reasons ≠ [] := by
  cases reasons <;> simp [ofReasons, allowed]

/-- Always, or on the days of a set while a window is open that has opened on the same day or on the
day before. -/
inductive Activator.AppliesOn (day : Weekday) (time : TimeOfDay) : Activator → Prop
  | always : AppliesOn day time .always
  | sinceToday {weekdays : WeekdaySet} {window : DailyWindow} (listed : weekdays.contains day = true)
      (opened : window.opens ≤ time.milliseconds) (stillOpen : time.milliseconds ≤ window.closes) :
      AppliesOn day time (.weekly weekdays window)
  | sinceYesterday {weekdays : WeekdaySet} {window : DailyWindow} (listed : weekdays.contains day = true)
      (opened : window.opens ≤ time.milliseconds + 86400000)
      (stillOpen : time.milliseconds + 86400000 ≤ window.closes) :
      AppliesOn day time (.weekly weekdays window)

theorem Activator.isOpen_iff {activator : Activator} {day : Weekday} {time : TimeOfDay} :
    activator.isOpen day time = true ↔ activator.AppliesOn day time := by
  cases activator with
  | always => exact ⟨fun _ => .always, fun _ => rfl⟩
  | weekly weekdays window =>
      simp only [isOpen, DailyWindow.contains, Bool.and_eq_true, Bool.or_eq_true,
        decide_eq_true_eq]
      constructor
      · rintro ⟨listed, ⟨opened, stillOpen⟩ | ⟨opened, stillOpen⟩⟩
        · exact .sinceToday listed opened stillOpen
        · exact .sinceYesterday listed opened stillOpen
      · rintro (_ | ⟨listed, opened, stillOpen⟩ | ⟨listed, opened, stillOpen⟩)
        · exact ⟨listed, .inl ⟨opened, stillOpen⟩⟩
        · exact ⟨listed, .inr ⟨opened, stillOpen⟩⟩

namespace Engine

variable {zone : Zone} {engine : Engine} {day : Weekday} {time : TimeOfDay} {id : String}

/-- There is a rule with the id, it protects, and its activator applies at the day and time. -/
def InEffect (engine : Engine) (day : Weekday) (time : TimeOfDay) (id : String) : Prop :=
  ∃ rule, engine.rule? id = some rule ∧
    rule.protects = true ∧ rule.activator.AppliesOn day time

/-- What the block policy asks of all rules together. -/
def Blocks (engine : Engine) (day : Weekday) (time : TimeOfDay) : BlockPolicy → Prop
  | .any => ∃ id, engine.InEffect day time id
  | .all => (∃ id rule, engine.rule? id = some rule) ∧
      ∀ id rule, engine.rule? id = some rule → engine.InEffect day time id

theorem mem_effective_iff :
    id ∈ engine.rules.effective day time ↔ engine.InEffect day time id := by
  unfold RuleGroup.effective InEffect
  rw [Table.mem_keys_filter_iff]
  simp only [Rule.isEffective, Bool.and_eq_true, Activator.isOpen_iff]
  rfl

theorem anyEffective_iff :
    engine.rules.anyEffective day time = true ↔ engine.Blocks day time .any := by
  unfold RuleGroup.anyEffective Blocks InEffect
  rw [Table.any_entries_iff]
  simp only [Rule.isEffective, Bool.and_eq_true, Activator.isOpen_iff]
  rfl

theorem isEmpty_rules_eq_false_iff :
    engine.rules.isEmpty = false ↔ ∃ id rule, engine.rule? id = some rule := by
  simp only [rule?, RuleGroup.get?, Table.get?_eq_some_iff]
  change engine.rules.rules.entries.isEmpty = false ↔ _
  cases engine.rules.rules.entries with
  | nil => simp
  | cons entry rest =>
      simp only [List.isEmpty_cons, true_iff]
      exact ⟨entry.1, entry.2, .head _⟩

theorem allEffective_iff :
    engine.rules.allEffective day time = true ↔ engine.Blocks day time .all := by
  unfold RuleGroup.allEffective Blocks
  rw [Bool.and_eq_true, Bool.not_eq_true', isEmpty_rules_eq_false_iff, Table.all_entries_iff]
  refine and_congr_right fun _ => forall_congr' fun id => forall_congr' fun rule => ?_
  refine imp_congr_right fun found => ?_
  have present : engine.rule? id = some rule := found
  simp [InEffect, present, Rule.isEffective, Activator.isOpen_iff]

theorem rulesBlock_iff :
    engine.rulesBlock day time = true ↔ engine.Blocks day time engine.blockPolicy := by
  unfold rulesBlock
  cases engine.blockPolicy with
  | any => exact anyEffective_iff
  | all => exact allEffective_iff

theorem Blocks.any {policy : BlockPolicy} (blocks : engine.Blocks day time policy) :
    engine.Blocks day time .any := by
  cases policy with
  | any => exact blocks
  | all =>
      obtain ⟨⟨id, rule, present⟩, all⟩ := blocks
      exact ⟨id, all id rule present⟩

/-- The reasons of `decision` that are rules. -/
theorem exists_ruleReasons (engine : Engine) (day : Weekday) (time : TimeOfDay) :
    ∃ ids : List String, engine.ruleReasons day time = ids.map .rule ∧
      ids.Pairwise (· < ·) ∧
      ∀ id, id ∈ ids ↔
        engine.Blocks day time engine.blockPolicy ∧ engine.InEffect day time id := by
  unfold ruleReasons
  by_cases block : engine.rulesBlock day time = true
  · refine ⟨engine.rules.effective day time, if_pos block, ?_, fun id => ?_⟩
    · exact Table.pairwise_keys_filter ..
    · rw [mem_effective_iff, and_iff_right (rulesBlock_iff.mp block)]
  · refine ⟨[], if_neg block, .nil, fun id => ?_⟩
    rw [rulesBlock_iff] at block
    simp [block]

theorem exists_allowanceReasons (engine : Engine) :
    ∃ up : Option Duration, engine.allowanceReasons = up.toList.map .allowanceUp ∧
      ∀ allowance, up = some allowance ↔
        ∃ tracker, engine.allowance = some tracker ∧
          tracker.remaining.milliseconds = 0 ∧ tracker.allowance = allowance := by
  unfold allowanceReasons
  cases engine.allowance with
  | none => exact ⟨none, rfl, by simp⟩
  | some tracker =>
      have up : tracker.isUp = true ↔ tracker.remaining.milliseconds = 0 :=
        Countdown.isFinished_iff tracker.countdown
      by_cases isUp : tracker.isUp = true
      · exact ⟨some tracker.allowance, by simp [isUp], by simp [up.mp isUp]⟩
      · exact ⟨none, by simp [isUp], by simp [mt up.mpr isUp]⟩

/-- No `run` changes what the allowance is. -/
theorem daily_run {policy : Policy} {saved : Option AllowanceTracker} {begin : Instant}
    (built : ofPolicy zone policy saved begin = .ok engine) (operations : List Operation) :
    (engine.run zone operations).1.allowance.map (·.allowance) =
      policy.allowance.map (·.daily) := by
  obtain ⟨addable, _, rfl⟩ := ofPolicy_eq_ok_iff.mp built
  have within : Option.Rel AllowanceTracker.Within
      ((initial zone policy saved begin).run zone operations).1.allowance policy.allowance :=
    within_run (wellFormed_initial addable).allowance zone operations
  generalize Engine.allowance _ = held, policy.allowance = terms at within ⊢
  cases within with
  | none => rfl
  | some within => exact congrArg some within.allowance

/-- The engine with another block policy. -/
def under (engine : Engine) (blockPolicy : BlockPolicy) : Engine := { engine with blockPolicy }

theorem reasons_under_sublist (engine : Engine) (day : Weekday) (time : TimeOfDay) :
    ((engine.under .all).decision day time).reasons.Sublist
      ((engine.under .any).decision day time).reasons := by
  simp only [decision, Decision.reasons_ofReasons]
  refine List.Sublist.append ?_ (.refl _)
  by_cases block : (engine.under .all).rulesBlock day time = true
  · have blocks : (engine.under .any).Blocks day time .any := (rulesBlock_iff.mp block).any
    have blockToo : (engine.under .any).rulesBlock day time = true := rulesBlock_iff.mpr blocks
    rw [ruleReasons, ruleReasons, if_pos block, if_pos blockToo]
    exact .refl _
  · rw [ruleReasons, if_neg block]
    exact List.nil_sublist _

/-- The reasons of `decision` are the rules in effect, ascending by id, if the block policy is met,
and after them the allowance if nothing is left of it; access is blocked exactly if there is a
reason.  An unordered map of the same rules gives the same decision.  In an engine of `ofPolicy`,
after any run, the allowance named is the configured one.  The reasons under `all` are among those
under `any`. -/
theorem decision_exact (engine : Engine) (day : Weekday) (time : TimeOfDay) :
    (∃ (ids : List String) (up : Option Duration),
      (engine.decision day time).reasons = ids.map .rule ++ up.toList.map .allowanceUp ∧
      ids.Pairwise (· < ·) ∧
      (∀ id, id ∈ ids ↔
        engine.Blocks day time engine.blockPolicy ∧ engine.InEffect day time id) ∧
      ∀ allowance, up = some allowance ↔
        ∃ tracker, engine.allowance = some tracker ∧
          tracker.remaining.milliseconds = 0 ∧ tracker.allowance = allowance) ∧
    ((engine.decision day time).isBlocked = true ↔ (engine.decision day time).reasons ≠ []) ∧
    (∀ arrangement : Arrangement, arrangement.Arranges engine →
      arrangement.decision day time = engine.decision day time) ∧
    (∀ zone policy saved begin built operations,
      ofPolicy zone policy saved begin = .ok built → engine = (built.run zone operations).1 →
        engine.allowance.map (·.allowance) = policy.allowance.map (·.daily)) ∧
    ((engine.under .all).decision day time).reasons.Sublist
      ((engine.under .any).decision day time).reasons ∧
    (((engine.under .all).decision day time).isBlocked = true →
      ((engine.under .any).decision day time).isBlocked = true) := by
  have blocked (engine : Engine) : (engine.decision day time).isBlocked = true ↔
      (engine.decision day time).reasons ≠ [] := by
    rw [decision, Decision.reasons_ofReasons]
    exact Decision.isBlocked_ofReasons_iff
  have fewer := reasons_under_sublist engine day time
  refine ⟨?_, blocked engine, fun _ arranges => arranges.decision day time, ?_, fewer, ?_⟩
  · obtain ⟨ids, rules, ordered, member⟩ := exists_ruleReasons engine day time
    obtain ⟨up, allowance, isUp⟩ := exists_allowanceReasons engine
    refine ⟨ids, up, ?_, ordered, member, isUp⟩
    rw [decision, Decision.reasons_ofReasons, rules, allowance]
  · rintro zone policy saved begin built operations made rfl
    exact daily_run made operations
  · rw [blocked, blocked]
    intro some none
    rw [none] at fewer
    exact some (List.sublist_nil.mp fewer)

/-- Both rules take effect at once, so that the stricter policy blocks too. -/
example : ((initial .utc .evening none .epoch).under .all).decision .mon ⟨0, by decide⟩ =
    ⟨true, [.rule "bedtime", .rule "focus"]⟩ := by
  decide

end Engine

end Curfew
