import Curfew.Config.Decode
import Curfew.Proofs.Config.Policy
import Curfew.Proofs.Engine.Construction

namespace Curfew

/-! A configuration that is accepted can be started. -/

/-- What a protector is when the engine has been built: armed, idle, or running with its full time.
-/
inductive RawProtector.Begins (now : Instant) : RawProtector → Protector → Prop where
  | idle {minutes : Nat} {span : Duration} (exact : span.milliseconds = minutes * 60000) :
      Begins now (.timed minutes false) (.timed ⟨span, none⟩)
  | running {minutes : Nat} {span : Duration} (exact : span.milliseconds = minutes * 60000) :
      Begins now (.timed minutes true) (.timed ⟨span, some ⟨span, now⟩⟩)
  | armed {minutes : Nat} {span : Duration} (exact : span.milliseconds = minutes * 60000) :
      Begins now (.plea minutes) (.plea ⟨span, .activated⟩)

structure RawRule.Begins (rule : RawRule) (now : Instant) (built : Rule) : Prop where
  activator : rule.activator.Means built.activator
  protector : rule.protector.Begins now built.protector

theorem RawRule.begins_toRule {rule : RawRule} {freshId : String} {policy : RulePolicy}
    (means : rule.Means freshId policy) (now : Instant) :
    rule.Begins now (policy.toRule now) := by
  refine ⟨means.activator, ?_⟩
  change rule.protector.Begins now (policy.initialProtector now)
  have written := means.protector
  unfold RulePolicy.initialProtector
  generalize rule.protector = raw at written ⊢
  generalize policy.protector = used at written ⊢
  cases written with
  | @timed minutes span startImmediately exact =>
      cases startImmediately with
      | true => exact .running exact
      | false => exact .idle exact
  | plea exact => exact .armed exact

namespace RawConfig

variable {config : RawConfig} {freshId : Nat → String}

/-- A rule without an id of its own. -/
def Unnamed (config : RawConfig) (position : Nat) : Prop :=
  ∃ rule ∈ config.rules[position]?, rule.id = none

/-- The ids that `freshId` makes up differ from each other and from those in the configuration. -/
structure Fresh (config : RawConfig) (freshId : Nat → String) : Prop where
  distinct : ∀ earlier later, config.Unnamed earlier → config.Unnamed later →
    freshId earlier = freshId later → earlier = later
  unused : ∀ position, config.Unnamed position → freshId position ∉ config.ids

theorem getD_id_ne (fresh : config.Fresh freshId) (named : config.ids.Nodup)
    {first second : Nat} (earlier : first < second) {former latter : RawRule}
    (atFirst : config.rules[first]? = some former)
    (atSecond : config.rules[second]? = some latter) :
    former.id.getD (freshId first) ≠ latter.id.getD (freshId second) := by
  have given {rule : RawRule} {id : String} (position : Nat)
      (written : config.rules[position]? = some rule) (named : rule.id = some id) :
      id ∈ config.ids :=
    List.mem_filterMap.mpr ⟨rule, List.mem_of_getElem? written, named⟩
  cases formerId : former.id with
  | none =>
      have formerUnnamed : config.Unnamed first := ⟨former, atFirst, formerId⟩
      cases latterId : latter.id with
      | none =>
          have latterUnnamed : config.Unnamed second := ⟨latter, atSecond, latterId⟩
          intro same
          exact absurd (fresh.distinct first second formerUnnamed latterUnnamed same)
            (Nat.ne_of_lt earlier)
      | some id =>
          rintro (same : freshId first = id)
          exact fresh.unused first formerUnnamed (same ▸ given second atSecond latterId)
  | some id =>
      cases latterId : latter.id with
      | none =>
          have latterUnnamed : config.Unnamed second := ⟨latter, atSecond, latterId⟩
          rintro (same : id = freshId second)
          exact fresh.unused second latterUnnamed (same ▸ given first atFirst formerId)
      | some other =>
          have apart := List.pairwise_filterMap.mp named
          obtain ⟨within, rfl⟩ := List.getElem?_eq_some_iff.mp atFirst
          obtain ⟨alsoWithin, rfl⟩ := List.getElem?_eq_some_iff.mp atSecond
          exact List.pairwise_iff_getElem.mp apart first second within alsoWithin earlier
            id formerId other latterId

theorem nodup_ids_toPolicy (fresh : config.Fresh freshId) (named : config.ids.Nodup) :
    ((config.toPolicy freshId).rules.map (·.id)).Nodup := by
  refine List.pairwise_iff_getElem.mpr fun first second within alsoWithin earlier => ?_
  simp only [List.length_map, toPolicy, List.length_mapIdx] at within alsoWithin
  simp only [toPolicy, List.getElem_map, List.getElem_mapIdx]
  exact getD_id_ne fresh named earlier (List.getElem?_eq_getElem within)
    (List.getElem?_eq_getElem alsoWithin)

theorem addable_toPolicy (fresh : config.Fresh freshId) (valid : config.problems = []) :
    Engine.Addable (config.toPolicy freshId).rules
      (.withCapacity (config.toPolicy freshId).daemon.maxRules) := by
  obtain ⟨_, capacity, _, duplicates, _⟩ := problems_eq_nil_iff.mp valid
  refine ⟨nodup_ids_toPolicy fresh (repeated_eq_nil_iff.mp duplicates).1, fun _ _ => rfl, ?_⟩
  have room : config.rules.length ≤ config.maxRules := capacityProblems_eq_nil_iff.mp capacity
  have length : (config.toPolicy freshId).rules.length = config.rules.length :=
    List.length_mapIdx
  change 0 + (config.toPolicy freshId).rules.length ≤ config.maxRules
  omega

theorem check_eq_ok_iff {checked : RawConfig} :
    config.check = .ok checked ↔
      config.version = currentConfigVersion ∧ config.problems = [] ∧ checked = config := by
  unfold check
  by_cases current : config.version = currentConfigVersion
  · cases config.problems <;> simp [current, eq_comm]
  · simp [current]

theorem problems_of_read {text : String} (accepted : Config.read text = .ok config) :
    config.problems = [] := by
  unfold Config.read at accepted
  split at accepted
  · contradiction
  · obtain ⟨_, unreported, rfl⟩ := check_eq_ok_iff.mp accepted
    exact unreported

theorem rule?_toPolicy (distinct : ((config.toPolicy freshId).rules.map (·.id)).Nodup)
    {position : Nat} {policy : RulePolicy}
    (used : (config.toPolicy freshId).rules[position]? = some policy) :
    (config.toPolicy freshId).rule? policy.id = some policy := by
  unfold Policy.rule?
  refine (List.find?_eq_some_iff_getElem).mpr ⟨beq_self_eq_true _, position, ?_⟩
  obtain ⟨within, rfl⟩ := List.getElem?_eq_some_iff.mp used
  refine ⟨within, rfl, fun earlier before => ?_⟩
  have apart := List.pairwise_iff_getElem.mp distinct earlier position
    (by simpa using Nat.lt_trans before within) (by simpa using within) before
  simpa using apart

theorem exists_rule_initial (accepted : config.problems = []) (fresh : config.Fresh freshId)
    (zone : Zone) (saved : Option AllowanceTracker) (now : Instant) {position : Nat}
    {rule : RawRule} (written : config.rules[position]? = some rule) :
    ∃ built, (Engine.initial zone (config.toPolicy freshId) saved now).rule?
        (rule.id.getD (freshId position)) = some built ∧ rule.Begins now built := by
  have distinct := (addable_toPolicy fresh accepted).distinct
  obtain ⟨policy, used, means⟩ := rule_means freshId accepted written
  refine ⟨policy.toRule now, ?_, RawRule.begins_toRule means now⟩
  rw [Engine.rule?_initial distinct, ← means.id, rule?_toPolicy distinct used, Option.map_some]

theorem exists_rawRule {id : String} {policy : RulePolicy}
    (found : (config.toPolicy freshId).rule? id = some policy) :
    ∃ (position : Nat) (rule : RawRule), config.rules[position]? = some rule ∧
      id = rule.id.getD (freshId position) := by
  unfold Policy.rule? at found
  have same : policy.id = id := by simpa using List.find?_some found
  obtain ⟨position, within, rfl⟩ := List.getElem_of_mem (List.mem_of_find?_eq_some found)
  refine ⟨position, config.rules.get ⟨position, by simpa [toPolicy] using within⟩, ?_, ?_⟩
  · exact List.getElem?_eq_getElem _
  · rw [← same]
    simp [toPolicy, RawRule.toPolicy]

/-- `ofPolicy` on a configuration that `Config.read` accepts never fails for a duplicate id or for
want of room: it gives an engine with exactly one rule for each that is configured, at its
beginning.  It breaks off if and only if a local date is missing that a saved allowance has to be
compared by. -/
theorem ofPolicy_read {text : String} (accepted : Config.read text = .ok config)
    (fresh : config.Fresh freshId) (zone : Zone) (saved : Option AllowanceTracker)
    (now : Instant) :
    ((config.toPolicy freshId).LacksDate zone saved now →
      Engine.ofPolicy zone (config.toPolicy freshId) saved now = .error .noLocalDate) ∧
    (¬ (config.toPolicy freshId).LacksDate zone saved now →
      ∃ engine, Engine.ofPolicy zone (config.toPolicy freshId) saved now = .ok engine ∧
        engine.rules.size = config.rules.length ∧
        (∀ (position : Nat) (rule : RawRule), config.rules[position]? = some rule →
          ∃ built, engine.rule? (rule.id.getD (freshId position)) = some built ∧
            rule.Begins now built) ∧
        ∀ id built, engine.rule? id = some built →
          ∃ (position : Nat) (rule : RawRule), config.rules[position]? = some rule ∧
            id = rule.id.getD (freshId position)) := by
  have valid := problems_of_read accepted
  have addable := addable_toPolicy fresh valid
  refine ⟨Engine.ofPolicy_of_lacksDate addable, fun dated =>
    ⟨_, Engine.ofPolicy_of_not_lacksDate addable dated, ?_,
      fun _ _ => exists_rule_initial valid fresh zone saved now, fun id built present => ?_⟩⟩
  · have length : (config.toPolicy freshId).rules.length = config.rules.length :=
      List.length_mapIdx
    have size : (Engine.addAll now (config.toPolicy freshId).rules _).size = _ :=
      Engine.size_addAll addable
    exact size.trans ((Nat.zero_add _).trans length)
  · rw [Engine.rule?_initial addable.distinct] at present
    obtain ⟨policy, found, _⟩ := Option.map_eq_some_iff.mp present
    exact exists_rawRule found

/-- A rule with an id and one that gets a fresh one. -/
def bedtime : RawConfig :=
  ⟨1, {}, none,
    [⟨some "bedtime", none, .always, .plea 30⟩, ⟨none, none, .always, .timed 90 true⟩]⟩

theorem fresh_bedtime : bedtime.Fresh fun _ => "new" := by
  have second (position : Nat) (unnamed : bedtime.Unnamed position) : position = 1 := by
    obtain ⟨rule, written, unnamed⟩ := unnamed
    rcases position with _ | _ | position
    · obtain rfl : ⟨some "bedtime", none, .always, .plea 30⟩ = rule := Option.some.inj written
      exact absurd unnamed (Option.some_ne_none "bedtime")
    · rfl
    · simp [bedtime] at written
  refine ⟨fun earlier later one other _ => ?_, fun _ _ => by decide⟩
  exact (second earlier one).trans (second later other).symm

/-- `ofPolicy` with nothing saved, for a rule with an id and one with a fresh id. -/
theorem ofPolicy_bedtime :
    ∃ engine,
      Engine.ofPolicy .utc (bedtime.toPolicy fun _ => "new") none .epoch = .ok engine ∧
      engine.rules.size = 2 ∧
      ∃ built, engine.rule? "new" = some built ∧
        RawRule.Begins ⟨none, none, .always, .timed 90 true⟩ .epoch built := by
  have read : Config.read ("config_version = 1\n" ++
        "[[rules]]\nid = \"bedtime\"\nactivator = [\"always\"]\n" ++
        "protector = [\"countdown_after_plea\", 30]\n" ++
        "[[rules]]\nactivator = [\"always\"]\nprotector = [\"countdown\", 90, true]\n") =
      .ok bedtime := by
    decide +kernel
  obtain ⟨engine, started, size, rules, _⟩ :=
    (ofPolicy_read read fresh_bedtime .utc none .epoch).2 (by decide)
  exact ⟨engine, started, size, rules 1 _ rfl⟩

/-- An accepted configuration for which `ofPolicy` breaks off: the saved allowance is of the first
hour of the calendar, which an hour west of UTC belongs to no date. -/
theorem twoHours_break_off :
    let config : RawConfig := { version := 1, allowance := some ⟨120, true⟩ }
    Config.read "config_version = 1\nallowance = [120]\n" = .ok config ∧
      Engine.ofPolicy (.fixed (-60)) (config.toPolicy fun _ => "")
        (some (.full ⟨7200000, by decide⟩ ⟨-8334601228800000, by decide, by decide⟩)) .epoch =
          .error .noLocalDate := by
  decide +kernel

end RawConfig

end Curfew
