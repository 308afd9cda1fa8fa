import Curfew.Proofs.Engine.Restart

namespace Curfew

/-! Saved states are taken up rule by rule.  One that does not fit leaves its rule as it was and
keeps no other from being taken up. -/

theorem Protector.resumes_restored (protector : Protector) (state? : Option SavedState) :
    protector.Resumes state? ((state?.map protector.restored).getD protector) := by
  cases state? with
  | none => exact .stays fun _ missing => by contradiction
  | some state =>
      simp only [Option.map_some, Option.getD_some, restored]
      cases applied : state.apply protector with
      | ok after =>
          obtain ⟨fits, isIn⟩ := SavedState.of_apply applied
          exact .takes fits (SavedState.apply_cases applied).2.1 isIn
      | error reason =>
          refine .stays fun other saved fits => ?_
          cases saved
          obtain ⟨after, accepted⟩ := fits.exists_apply
          cases applied.symm.trans accepted

namespace Engine

variable {engine : Engine} {states : SavedStates} {id : String} {rule : Rule} {state : SavedState}

/-- There is a rule with the id and a state saved for it that fits. -/
def TakesUp (engine : Engine) (states : SavedStates) (id : String) : Prop :=
  ∃ rule state, engine.rule? id = some rule ∧ states.get? id = some state ∧
    state.Fits rule.protector

theorem rel_restore (engine : Engine) (states : SavedStates) (id : String) :
    Option.Rel (fun rule next : Rule => next.activator = rule.activator ∧
        rule.protector.Resumes (states.get? id) next.protector)
      (engine.rule? id) ((engine.restore states).1.rule? id) := by
  rw [rule?_restore]
  cases engine.rule? id with
  | none => exact .none
  | some rule => exact .some ⟨rfl, rule.protector.resumes_restored (states.get? id)⟩

theorem restoreRule?_eq_some (saved : states.get? id = some state) {protector : Protector}
    (applied : state.apply rule.protector = .ok protector) :
    restoreRule? states id rule = some { rule with protector } := by
  simp only [restoreRule?, saved, applied]

theorem isSome_restoreRule?_iff :
    (restoreRule? states id rule).isSome = true ↔
      ∃ state, states.get? id = some state ∧ state.Fits rule.protector := by
  cases saved : states.get? id with
  | none => simp [restoreRule?, saved]
  | some state =>
      cases applied : state.apply rule.protector with
      | ok protector =>
          have fits := (SavedState.of_apply applied).1
          simp [restoreRule?, saved, applied, fits]
      | error reason =>
          have misfit : ¬ state.Fits rule.protector := fun fits => by
            obtain ⟨after, accepted⟩ := fits.exists_apply
            cases applied.symm.trans accepted
          simp [restoreRule?, saved, applied, misfit]

theorem restoreRule?_again (states : SavedStates) (id : String) (rule : Rule) :
    restoreRule? states id ((restoreRule? states id rule).getD rule) =
      restoreRule? states id rule := by
  cases first : restoreRule? states id rule with
  | none => exact first
  | some next =>
      obtain ⟨state, saved, fits⟩ := isSome_restoreRule?_iff.mp (Option.isSome_of_eq_some first)
      obtain ⟨after, applied⟩ := fits.exists_apply
      obtain rfl : { rule with protector := after } = next :=
        Option.some.inj ((restoreRule?_eq_some saved applied).symm.trans first)
      obtain ⟨kind, duration, _⟩ := SavedState.apply_cases applied
      obtain ⟨again, reapplied⟩ := (fits.congr kind duration).exists_apply
      have same : again = after := (SavedState.of_apply reapplied).2.unique
        (SavedState.of_apply applied).2 (SavedState.apply_cases reapplied).2.1
      exact restoreRule?_eq_some saved (same ▸ reapplied)

/-- The number that `restore` gives is that of the rules that take up a state. -/
theorem exists_restored (engine : Engine) (states : SavedStates) :
    ∃ ids : List String, ids.Nodup ∧ (engine.restore states).2 = ids.length ∧
      ∀ id, id ∈ ids ↔ engine.TakesUp states id := by
  refine ⟨(engine.rules.rules.entries.filter fun entry =>
    (restoreRule? states entry.1 entry.2).isSome).map Prod.fst, ?_, ?_, fun id => ?_⟩
  · exact (Table.pairwise_keys_filter ..).imp Entries.ne_of_lt
  · rw [List.length_map, ← List.countP_eq_length_filter]
    rfl
  · rw [Table.mem_keys_filter_iff]
    simp only [isSome_restoreRule?_iff]
    exact ⟨fun ⟨rule, found, state, saved, fits⟩ => ⟨rule, state, found, saved, fits⟩,
      fun ⟨rule, state, found, saved, fits⟩ => ⟨rule, found, state, saved, fits⟩⟩

/-- States for ids without a rule make no difference to `restore`. -/
theorem restore_congr {others : SavedStates}
    (same : ∀ id, (engine.rule? id).isSome = true → others.get? id = states.get? id) :
    engine.restore others = engine.restore states := by
  have alike {entry : String × Rule} (member : entry ∈ engine.rules.rules.entries) :
      restoreRule? others entry.1 entry.2 = restoreRule? states entry.1 entry.2 := by
    have present : engine.rule? entry.1 = some entry.2 := Table.get?_eq_some_iff.mpr member
    have saved := same entry.1 (Option.isSome_of_eq_some present)
    simp only [restoreRule?, saved]
  have rules : (engine.rules.rules.map fun id rule => (restoreRule? others id rule).getD rule) =
      engine.rules.rules.map fun id rule => (restoreRule? states id rule).getD rule := by
    refine Table.ext_get? fun id => ?_
    rw [Table.get?_map, Table.get?_map]
    cases found : engine.rules.rules.get? id with
    | none => rfl
    | some rule => simp only [Option.map_some, alike (Table.get?_eq_some_iff.mp found)]
  have count : (engine.rules.rules.entries.countP fun entry =>
      (restoreRule? others entry.1 entry.2).isSome) =
      engine.rules.rules.entries.countP fun entry =>
        (restoreRule? states entry.1 entry.2).isSome :=
    List.countP_congr fun entry member => by rw [alike member]
  simp only [restore, rules, count]

theorem restore_restore (engine : Engine) (states : SavedStates) :
    (engine.restore states).1.restore states = engine.restore states := by
  have rules : ((engine.rules.rules.map fun id rule =>
        (restoreRule? states id rule).getD rule).map fun id rule =>
          (restoreRule? states id rule).getD rule) =
      engine.rules.rules.map fun id rule => (restoreRule? states id rule).getD rule := by
    refine Table.ext_get? fun id => ?_
    rw [Table.get?_map, Table.get?_map, Option.map_map]
    refine congrArg (Option.map · _) (funext fun rule => ?_)
    rw [Function.comp_apply, restoreRule?_again]
    cases restoreRule? states id rule <;> rfl
  have count : ((engine.rules.rules.map fun id rule =>
        (restoreRule? states id rule).getD rule).entries.countP fun entry =>
          (restoreRule? states entry.1 entry.2).isSome) =
      engine.rules.rules.entries.countP fun entry =>
        (restoreRule? states entry.1 entry.2).isSome := by
    rw [Table.map, List.countP_map]
    refine List.countP_congr fun entry _ => ?_
    rw [Function.comp_apply, restoreRule?_again]
  simp only [restore, rules, count]

theorem get?_savedStates_restore {saved : SavedState} (found : engine.rule? id = some rule)
    (given : states.get? id = some saved) (fits : saved.Fits rule.protector)
    (left : ∀ countdown ∈ saved.countdown?, countdown.remaining ≠ 0) :
    (engine.restore states).1.savedStates.get? id = some saved := by
  have related := rel_restore engine states id
  rw [found, given] at related
  rw [get?_savedStates]
  generalize (engine.restore states).1.rule? id = after at related
  cases related with
  | some resumed =>
      exact congrArg some ((resumed.2.isIn fits).capture left)

/-- `restore` on any engine and any table of states.  Each rule is in its saved state if that `Fits`
and as it was otherwise; the number of the former is returned; allowance, settings and capacity
stay.  States without a rule have no effect, a second `restore` changes nothing, and what was
applied with something left is found again by `savedStates`. -/
theorem restore_exact (engine : Engine) (states : SavedStates) :
    (∀ id, Option.Rel (fun rule next : Rule => next.activator = rule.activator ∧
        rule.protector.Resumes (states.get? id) next.protector)
      (engine.rule? id) ((engine.restore states).1.rule? id)) ∧
    (∃ ids : List String, ids.Nodup ∧ (engine.restore states).2 = ids.length ∧
      ∀ id, id ∈ ids ↔ engine.TakesUp states id) ∧
    ((engine.restore states).1.allowance = engine.allowance ∧
      (engine.restore states).1.resetsDaily = engine.resetsDaily ∧
      (engine.restore states).1.blockPolicy = engine.blockPolicy ∧
      (engine.restore states).1.rules.capacity = engine.rules.capacity) ∧
    (∀ others : SavedStates,
      (∀ id, (engine.rule? id).isSome = true → others.get? id = states.get? id) →
        engine.restore others = engine.restore states) ∧
    (engine.restore states).1.restore states = engine.restore states ∧
    ∀ id rule state, engine.rule? id = some rule → states.get? id = some state →
      state.Fits rule.protector → (∀ countdown ∈ state.countdown?, countdown.remaining ≠ 0) →
        (engine.restore states).1.savedStates.get? id = some state :=
  ⟨rel_restore engine states, exists_restored engine states, ⟨rfl, rfl, rfl, rfl⟩,
    fun _ => restore_congr, restore_restore engine states,
    fun _ _ _ => get?_savedStates_restore⟩

/-- A grace with nothing left is over, a countdown that is too long is not taken up, and nobody
knows the third rule. -/
example :
    let states : SavedStates := Table.ofList
      [("bedtime", .deactivating ⟨0, 0, by decide, by decide⟩),
        ("focus", .running ⟨5400001, 0, by decide, by decide⟩), ("gone", .idle)]
    ((initial .utc .evening none .epoch).restore states).2 = 1 ∧
      ((initial .utc .evening none .epoch).restore states).1.savedStates.get? "bedtime" =
        some .deactivated := by
  decide

end Engine

end Curfew
