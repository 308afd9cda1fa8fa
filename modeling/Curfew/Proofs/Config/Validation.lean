import Curfew.Config.Validation
import Curfew.Proofs.Time.Duration

namespace Curfew

/-! When there is nothing to report about a configuration, part by part. -/

namespace RawRule

variable {rule : RawRule}

theorem timeProblems_eq_nil_iff {value : String} :
    timeProblems value = [] ↔ ∃ time, ClockText.read value.toList = .ok time := by
  unfold timeProblems
  cases ClockText.read value.toList <;> simp

theorem dayProblems_eq_nil_iff {days : DaySpec} :
    rule.dayProblems days = [] ↔ ∃ set, days.resolve = .ok set ∧ set.isEmpty = false := by
  unfold dayProblems
  cases days.resolve <;> simp

theorem protectorProblems_eq_nil_iff :
    rule.protectorProblems = [] ↔
      0 < rule.protector.minutes ∧
        ∃ span, Duration.ofUnits .minutes rule.protector.minutes = .ok span := by
  unfold protectorProblems
  rw [Nat.pos_iff_ne_zero]
  by_cases zero : rule.protector.minutes = 0
  · simp [zero]
  · cases Duration.ofUnits .minutes rule.protector.minutes <;> simp [zero]

end RawRule

namespace RawConfig

variable {config : RawConfig}

theorem problems_eq_nil_iff :
    config.problems = [] ↔
      config.tickProblems = [] ∧ config.capacityProblems = [] ∧
        config.allowanceProblems = [] ∧ repeated [] config.ids = [] ∧
          ∀ rule ∈ config.rules, rule.problems = [] := by
  simp [problems, List.append_eq_nil_iff, List.flatMap_eq_nil_iff]

theorem capacityProblems_eq_nil_iff :
    config.capacityProblems = [] ↔ config.rules.length ≤ config.maxRules := by
  simp [capacityProblems]

theorem allowanceProblems_eq_nil_iff :
    config.allowanceProblems = [] ↔ ∀ allowance ∈ config.allowance,
      0 < allowance.dailyMinutes ∧ allowance.dailyMinutes ≤ maxDailyMinutes := by
  unfold allowanceProblems
  cases config.allowance with
  | none => simp
  | some allowance => simp [Nat.pos_iff_ne_zero]

theorem repeated_eq_nil_iff {seen ids : List String} :
    repeated seen ids = [] ↔ ids.Nodup ∧ ∀ id ∈ ids, id ∉ seen := by
  induction ids generalizing seen with
  | nil => simp [repeated]
  | cons id rest ih =>
      by_cases again : id ∈ seen
      · simp [repeated, again]
      · rw [repeated, if_neg again, ih, List.nodup_cons]
        constructor
        · rintro ⟨distinct, unseen⟩
          refine ⟨⟨fun later => unseen id later (.head _), distinct⟩, ?_⟩
          intro other member
          rcases List.mem_cons.mp member with rfl | later
          · exact again
          · exact fun before => unseen other later (.tail _ before)
        · rintro ⟨⟨fresh, distinct⟩, unseen⟩
          refine ⟨distinct, fun other later before => ?_⟩
          rcases List.mem_cons.mp before with rfl | earlier
          · exact fresh later
          · exact unseen other (.tail _ later) earlier

end RawConfig

end Curfew
