import Curfew.Config.Days
import Mathlib.Data.List.Forall2

namespace Curfew

/-! The weekdays that the days of a rule mean, by the names of days and presets.  A name may be
written in any letter case. -/

namespace WeekdaySet

variable {set other : WeekdaySet} {day : Weekday}

theorem ext_contains (same : ∀ day, set.contains day = other.contains day) : set = other := by
  obtain ⟨mask⟩ := set
  obtain ⟨mask'⟩ := other
  refine congrArg WeekdaySet.mk (BitVec.eq_of_getLsbD_eq fun position within => ?_)
  have there := same (Weekday.ofNumber ⟨position, within⟩)
  unfold contains at there
  rwa [Weekday.number_ofNumber] at there

theorem eq_of_contains {members : Weekday → Prop}
    (each : ∀ day, set.contains day = true ↔ members day)
    (known : ∀ day, other.contains day = true ↔ members day) : set = other :=
  ext_contains fun day => by rw [Bool.eq_iff_iff, each, known]

theorem contains_all (day : Weekday) : all.contains day = true := by
  cases day <;> rfl

theorem contains_weekdays_iff (day : Weekday) :
    weekdays.contains day = true ↔ day ≠ .sat ∧ day ≠ .sun := by
  cases day <;> decide

theorem contains_weekends_iff (day : Weekday) :
    weekends.contains day = true ↔ day = .sat ∨ day = .sun := by
  cases day <;> decide

theorem contains_empty (day : Weekday) : empty.contains day = false := by
  cases day <;> rfl

theorem contains_add (set : WeekdaySet) (added day : Weekday) :
    (set.add added).contains day = (set.contains day || decide (added = day)) := by
  have same : (day.number : Nat) = (added.number : Nat) ↔ added = day := by
    cases added <;> cases day <;> decide
  simp [contains, add, bit, same]

theorem contains_ofList_iff {days : List Weekday} :
    (ofList days).contains day = true ↔ day ∈ days := by
  have onto (days : List Weekday) (set : WeekdaySet) :
      (days.foldl add set).contains day = true ↔ set.contains day = true ∨ day ∈ days := by
    induction days generalizing set with
    | nil => simp
    | cons first rest ih =>
        rw [List.foldl_cons, ih, contains_add, List.mem_cons, Bool.or_eq_true, decide_eq_true_eq,
          or_assoc, @eq_comm _ first day]
  rw [ofList, onto, contains_empty]
  simp

theorem isEmpty_eq_false_iff : set.isEmpty = false ↔ ∃ day, set.contains day = true := by
  rw [← Bool.not_eq_true, ← not_forall_not, not_iff_not]
  constructor
  · intro none day
    obtain rfl : set = empty := congrArg WeekdaySet.mk (eq_of_beq none)
    simp [contains_empty]
  · intro none
    obtain rfl : set = empty := ext_contains fun day => by
      rw [contains_empty]
      exact Bool.eq_false_iff.mpr (none day)
    rfl

end WeekdaySet

namespace DaySpec

/-- The names of a day, in small letters. -/
def wordsFor : Weekday → List String
  | .mon => ["mon", "monday"]
  | .tue => ["tue", "tuesday"]
  | .wed => ["wed", "wednesday"]
  | .thu => ["thu", "thursday"]
  | .fri => ["fri", "friday"]
  | .sat => ["sat", "saturday"]
  | .sun => ["sun", "sunday"]

/-- The text is the word in any letter case, by `Text.lowercase`. -/
def Spells (text word : String) : Prop :=
  Text.lowercase text.toList = word.toList

inductive Means : DaySpec → WeekdaySet → Prop where
  | everyDay {name word : String} {set : WeekdaySet} (preset : word ∈ ["all", "every", "daily"])
      (spelled : Spells name word) (each : ∀ day, set.contains day = true) :
      Means (.preset name) set
  | workdays {name : String} {set : WeekdaySet} (spelled : Spells name "weekdays")
      (each : ∀ day, set.contains day = true ↔ day ≠ .sat ∧ day ≠ .sun) :
      Means (.preset name) set
  | weekends {name : String} {set : WeekdaySet} (spelled : Spells name "weekends")
      (each : ∀ day, set.contains day = true ↔ day = .sat ∨ day = .sun) :
      Means (.preset name) set
  | list {names : List String} {days : List Weekday} {set : WeekdaySet}
      (named : List.Forall₂ (fun name day => ∃ word ∈ wordsFor day, Spells name word) names days)
      (each : ∀ day, set.contains day = true ↔ day ∈ days) : Means (.list names) set

variable {name word : String} {set : WeekdaySet}

theorem spells_iff : Spells name word ↔ String.ofList (Text.lowercase name.toList) = word := by
  unfold Spells
  constructor
  · intro same
    rw [same, String.ofList_toList]
  · rintro rfl
    exact String.toList_ofList.symm

theorem ofName?_eq_some_iff {day : Weekday} :
    Weekday.ofName? name = some day ↔ ∃ word ∈ wordsFor day, Spells name word := by
  simp only [spells_iff, exists_eq_right', Weekday.ofName?]
  generalize String.ofList (Text.lowercase name.toList) = lowered
  constructor
  · intro found
    have called := List.find?_some found
    simp only [Bool.or_eq_true, beq_iff_eq] at called
    cases day <;> simpa [wordsFor, Weekday.tag, Weekday.longName, eq_comm] using called
  · intro called
    cases day <;> simp only [wordsFor, List.mem_cons, List.not_mem_nil, or_false] at called <;>
      rcases called with rfl | rfl <;> rfl

theorem ofPreset_eq_ok_iff : ofPreset name = .ok set ↔ Means (.preset name) set := by
  constructor
  · intro read
    simp only [ofPreset] at read
    split at read
    · rename_i all
      cases read
      obtain ⟨word, preset, spelled⟩ :
          ∃ word ∈ ["all", "every", "daily"], Spells name word := by
        simpa [spells_iff] using all
      exact .everyDay preset spelled WeekdaySet.contains_all
    · split at read
      · rename_i workdays
        cases read
        exact .workdays (spells_iff.mpr workdays) WeekdaySet.contains_weekdays_iff
      · split at read
        · rename_i weekends
          cases read
          exact .weekends (spells_iff.mpr weekends) WeekdaySet.contains_weekends_iff
        · contradiction
  · intro means
    cases means with
    | everyDay preset spelled each =>
        obtain rfl : set = .all := WeekdaySet.ext_contains fun day =>
          (each day).trans (WeekdaySet.contains_all day).symm
        simp only [List.mem_cons, List.not_mem_nil, or_false] at preset
        simp [ofPreset, spells_iff.mp spelled, preset]
    | workdays spelled each =>
        obtain rfl := WeekdaySet.eq_of_contains each WeekdaySet.contains_weekdays_iff
        simp [ofPreset, spells_iff.mp spelled]
    | weekends spelled each =>
        obtain rfl := WeekdaySet.eq_of_contains each WeekdaySet.contains_weekends_iff
        simp [ofPreset, spells_iff.mp spelled]

theorem ofNames_eq_ok_iff {names : List String} {days : List Weekday} :
    ofNames names = .ok days ↔
      List.Forall₂ (fun name day => ∃ word ∈ wordsFor day, Spells name word) names days := by
  induction names generalizing days with
  | nil => simp [ofNames, eq_comm]
  | cons name rest ih =>
      constructor
      · intro read
        unfold ofNames at read
        cases first : Weekday.ofName? name with
        | none => simp [first] at read
        | some day =>
            cases others : ofNames rest with
            | error cause => simp [first, others, Except.map] at read
            | ok later =>
                simp only [first, others, Except.map, Except.ok.injEq] at read
                cases read
                exact .cons (ofName?_eq_some_iff.mp first) (ih.mp others)
      · rintro (_ | ⟨first, others⟩)
        rw [ofNames, ofName?_eq_some_iff.mpr first, ih.mpr others]
        rfl

/-- `resolve` gives the set that the days mean by `Means`, and fails exactly on days that mean none.
-/
theorem resolve_eq_ok_iff {days : DaySpec} : days.resolve = .ok set ↔ days.Means set := by
  cases days with
  | preset name => exact ofPreset_eq_ok_iff
  | list names =>
      constructor
      · intro read
        rw [resolve] at read
        cases listed : ofNames names with
        | error cause => simp [listed, Except.map] at read
        | ok days =>
            rw [listed] at read
            cases read
            exact .list (ofNames_eq_ok_iff.mp listed) fun _ => WeekdaySet.contains_ofList_iff
      · rintro (_ | _ | _ | ⟨named, each⟩)
        rw [resolve, ofNames_eq_ok_iff.mpr named]
        exact congrArg Except.ok
          (WeekdaySet.eq_of_contains (fun _ => WeekdaySet.contains_ofList_iff) each)

end DaySpec

end Curfew
