import Curfew.Proofs.Config.Validation
import Curfew.Proofs.Text.Pieces
import Mathlib.Algebra.Group.Nat.Defs

namespace Curfew

/-! What is reported about a single rule.  Every part of a rule has at most one problem, and
what is wrong with a part can be said without a look at the report. -/

inductive RulePart where
  | id
  | days
  | opening
  | closing
  | minutes
deriving DecidableEq, Repr

namespace RulePart

def inOrder : List RulePart := [.id, .days, .opening, .closing, .minutes]

def rank : RulePart → Nat
  | .id => 0
  | .days => 1
  | .opening => 2
  | .closing => 3
  | .minutes => 4

end RulePart

theorem maximum_minutes : TimeUnit.minutes.maximum = (2 ^ 53 - 1) / 60000 := rfl

namespace RawRule

variable {rule : RawRule} {part : RulePart} {problem : ConfigProblem}

structure Valid (rule : RawRule) : Prop where
  id : ∀ id, rule.id = some id → ¬ Text.AllBlank id.toList
  window : ∀ days opens closes, rule.activator = .weekly days opens closes →
    (∃ set, days.resolve = .ok set ∧ set.isEmpty = false) ∧
      (∃ time, ClockText.read opens.toList = .ok time) ∧
      ∃ time, ClockText.read closes.toList = .ok time
  minutes : 1 ≤ rule.protector.minutes ∧ rule.protector.minutes ≤ (2 ^ 53 - 1) / 60000

/-- What is wrong with a part of a rule, stated without the checks. -/
inductive Wrong (rule : RawRule) : RulePart → ConfigProblem → Prop
  | blank {id} (given : rule.id = some id) (blank : Text.AllBlank id.toList) :
      Wrong rule .id .blankId
  | noDays {days opens closes set} (window : rule.activator = .weekly days opens closes)
      (resolved : days.resolve = .ok set) (empty : set.isEmpty = true) :
      Wrong rule .days (.noDays rule.shownId)
  | badDays {days opens closes cause} (window : rule.activator = .weekly days opens closes)
      (refused : days.resolve = .error cause) :
      Wrong rule .days (.badDays rule.shownId cause)
  | opening {days opens closes cause} (window : rule.activator = .weekly days opens closes)
      (refused : ClockText.read opens.toList = .error cause) :
      Wrong rule .opening (.badTime opens cause)
  | closing {days opens closes cause} (window : rule.activator = .weekly days opens closes)
      (refused : ClockText.read closes.toList = .error cause) :
      Wrong rule .closing (.badTime closes cause)
  | zeroMinutes (zero : rule.protector.minutes = 0) :
      Wrong rule .minutes (.zeroMinutes rule.shownId rule.protector.minutesField)
  | tooManyMinutes (long : (2 ^ 53 - 1) / 60000 < rule.protector.minutes) :
      Wrong rule .minutes (.tooManyMinutes rule.shownId rule.protector.minutesField
        (.tooLarge .minutes rule.protector.minutes))

def problemsOf (rule : RawRule) : RulePart → List ConfigProblem
  | .id => rule.idProblems
  | .days =>
      match rule.activator with
      | .always => []
      | .weekly days _ _ => rule.dayProblems days
  | .opening =>
      match rule.activator with
      | .always => []
      | .weekly _ opens _ => timeProblems opens
  | .closing =>
      match rule.activator with
      | .always => []
      | .weekly _ _ closes => timeProblems closes
  | .minutes => rule.protectorProblems

theorem problems_eq_flatMap (rule : RawRule) :
    rule.problems = RulePart.inOrder.flatMap rule.problemsOf := by
  cases window : rule.activator <;>
    simp [problems, activatorProblems, RulePart.inOrder, problemsOf, window]

theorem idProblems_eq_nil_iff :
    rule.idProblems = [] ↔ ∀ id, rule.id = some id → ¬ Text.AllBlank id.toList := by
  unfold idProblems
  cases rule.id <;> simp [← Text.trim_eq_nil_iff]

theorem activatorProblems_eq_nil_iff :
    rule.activatorProblems = [] ↔
      ∀ days opens closes, rule.activator = .weekly days opens closes →
        (∃ set, days.resolve = .ok set ∧ set.isEmpty = false) ∧
          (∃ time, ClockText.read opens.toList = .ok time) ∧
          ∃ time, ClockText.read closes.toList = .ok time := by
  unfold activatorProblems
  cases rule.activator with
  | always => simp
  | weekly days opens closes =>
      simp [List.append_eq_nil_iff, dayProblems_eq_nil_iff, timeProblems_eq_nil_iff]

theorem protectorProblems_eq_nil_iff_fits :
    rule.protectorProblems = [] ↔
      1 ≤ rule.protector.minutes ∧ rule.protector.minutes ≤ (2 ^ 53 - 1) / 60000 := by
  rw [protectorProblems_eq_nil_iff, ← maximum_minutes]
  refine and_congr_right fun _ => ⟨?_, Duration.ofUnits_eq_ok_of_le⟩
  rintro ⟨span, made⟩
  exact (TimeUnit.minutes.mul_factor_le_iff _).mp
    (Duration.ofUnits_eq_ok_iff.mp made ▸ span.bounded)

theorem problems_eq_nil_iff_valid : rule.problems = [] ↔ rule.Valid := by
  rw [problems, List.append_eq_nil_iff, List.append_eq_nil_iff, idProblems_eq_nil_iff,
    activatorProblems_eq_nil_iff, protectorProblems_eq_nil_iff_fits]
  constructor
  · rintro ⟨⟨id, window⟩, minutes⟩
    exact ⟨id, window, minutes⟩
  · rintro ⟨id, window, minutes⟩
    exact ⟨⟨id, window⟩, minutes⟩

theorem mem_idProblems_iff :
    problem ∈ rule.idProblems ↔
      problem = .blankId ∧ ∃ id, rule.id = some id ∧ Text.AllBlank id.toList := by
  unfold idProblems
  cases rule.id with
  | none => simp
  | some id =>
      by_cases blank : Text.AllBlank id.toList
      · simp [Text.trim_eq_nil_iff.mpr blank, blank]
      · simp [mt Text.trim_eq_nil_iff.mp blank, blank]

theorem mem_dayProblems_iff {days : DaySpec} :
    problem ∈ rule.dayProblems days ↔
      (problem = .noDays rule.shownId ∧ ∃ set, days.resolve = .ok set ∧ set.isEmpty = true) ∨
        ∃ cause, problem = .badDays rule.shownId cause ∧ days.resolve = .error cause := by
  unfold dayProblems
  cases days.resolve with
  | ok set => cases empty : set.isEmpty <;> simp [empty]
  | error cause => simp

theorem mem_timeProblems_iff {value : String} :
    problem ∈ timeProblems value ↔
      ∃ cause, problem = .badTime value cause ∧ ClockText.read value.toList = .error cause := by
  unfold timeProblems
  cases ClockText.read value.toList <;> simp

theorem mem_protectorProblems_iff :
    problem ∈ rule.protectorProblems ↔
      (rule.protector.minutes = 0 ∧
          problem = .zeroMinutes rule.shownId rule.protector.minutesField) ∨
        (2 ^ 53 - 1) / 60000 < rule.protector.minutes ∧
          problem = .tooManyMinutes rule.shownId rule.protector.minutesField
            (.tooLarge .minutes rule.protector.minutes) := by
  rw [← maximum_minutes]
  unfold protectorProblems
  by_cases zero : rule.protector.minutes = 0
  · simp [zero]
  · by_cases long : TimeUnit.minutes.maximum < rule.protector.minutes
    · simp [zero, long, Duration.ofUnits_eq_error_iff.mpr ⟨long, rfl⟩]
    · obtain ⟨span, made⟩ := Duration.ofUnits_eq_ok_of_le (Nat.not_lt.mp long)
      simp [zero, long, made]

theorem wrong_of_mem_problemsOf (reported : problem ∈ rule.problemsOf part) :
    rule.Wrong part problem := by
  cases part with
  | id =>
      obtain ⟨rfl, id, given, blank⟩ := mem_idProblems_iff.mp reported
      exact .blank given blank
  | days =>
      rw [problemsOf] at reported
      split at reported
      · contradiction
      · rename_i days opens closes window
        rcases mem_dayProblems_iff.mp reported with
          ⟨rfl, set, resolved, empty⟩ | ⟨cause, rfl, refused⟩
        · exact .noDays window resolved empty
        · exact .badDays window refused
  | opening =>
      rw [problemsOf] at reported
      split at reported
      · contradiction
      · rename_i days opens closes window
        obtain ⟨cause, rfl, refused⟩ := mem_timeProblems_iff.mp reported
        exact .opening window refused
  | closing =>
      rw [problemsOf] at reported
      split at reported
      · contradiction
      · rename_i days opens closes window
        obtain ⟨cause, rfl, refused⟩ := mem_timeProblems_iff.mp reported
        exact .closing window refused
  | minutes =>
      rcases mem_protectorProblems_iff.mp reported with ⟨zero, rfl⟩ | ⟨long, rfl⟩
      · exact .zeroMinutes zero
      · exact .tooManyMinutes long

theorem mem_problemsOf_of_wrong (wrong : rule.Wrong part problem) :
    problem ∈ rule.problemsOf part := by
  cases wrong with
  | blank given blank => exact mem_idProblems_iff.mpr ⟨rfl, _, given, blank⟩
  | noDays window resolved empty =>
      rw [problemsOf, window]
      exact mem_dayProblems_iff.mpr (.inl ⟨rfl, _, resolved, empty⟩)
  | badDays window refused =>
      rw [problemsOf, window]
      exact mem_dayProblems_iff.mpr (.inr ⟨_, rfl, refused⟩)
  | opening window refused =>
      rw [problemsOf, window]
      exact mem_timeProblems_iff.mpr ⟨_, rfl, refused⟩
  | closing window refused =>
      rw [problemsOf, window]
      exact mem_timeProblems_iff.mpr ⟨_, rfl, refused⟩
  | zeroMinutes zero => exact mem_protectorProblems_iff.mpr (.inl ⟨zero, rfl⟩)
  | tooManyMinutes long => exact mem_protectorProblems_iff.mpr (.inr ⟨long, rfl⟩)

theorem length_problemsOf_le (rule : RawRule) (part : RulePart) :
    (rule.problemsOf part).length ≤ 1 := by
  cases part <;>
    simp only [problemsOf, idProblems, dayProblems, timeProblems, protectorProblems] <;>
    (repeat' split) <;> simp

end RawRule

end Curfew
