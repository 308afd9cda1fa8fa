import Curfew.Proofs.Config.RuleProblems
import Mathlib.Data.List.Count
import Mathlib.Data.List.Induction

namespace Curfew

/-! What is reported about a configuration.  Every problem is found at a place, the places
are gone through in one order, and what is wrong at a place can be said without a look at the
report. -/

/-- A place that `problems` looks at.  Rules are counted from zero. -/
inductive ConfigPlace where
  | tick
  | capacity
  | allowance
  | repeated (position : Nat)
  | rule (position : Nat) (part : RulePart)
deriving DecidableEq, Repr

namespace ConfigPlace

/-- What is looked at, at which rule, and at which part of it, in the order of the checks. -/
def rank : ConfigPlace → Nat × Nat × Nat
  | .tick => (0, 0, 0)
  | .capacity => (1, 0, 0)
  | .allowance => (2, 0, 0)
  | .repeated position => (3, position, 0)
  | .rule position part => (4, position, part.rank)

def Before (place other : ConfigPlace) : Prop :=
  Prod.Lex (· < ·) (Prod.Lex (· < ·) (· < ·)) place.rank other.rank

def rule? : ConfigPlace → Option Nat
  | .rule position _ => some position
  | _ => none

end ConfigPlace

/-- A function that appends a part for every element of its list is the list of these parts by
position. -/
theorem eq_flatMap_range {α β : Type} (whole : List α → List β) (part : List α → Nat → List β)
    (nothing : whole [] = [])
    (concat : ∀ before last,
      whole (before ++ [last]) = whole before ++ part (before ++ [last]) before.length)
    (settled : ∀ before last position, position < before.length →
      part (before ++ [last]) position = part before position) (items : List α) :
    whole items = (List.range items.length).flatMap (part items) := by
  induction items using List.reverseRecOn with
  | nil => exact nothing
  | append_singleton before last ih =>
      have earlier : (List.range before.length).flatMap (part (before ++ [last])) =
          (List.range before.length).flatMap (part before) :=
        List.flatMap_congr fun position member =>
          settled before last position (List.mem_range.mp member)
      rw [concat, List.length_append, List.length_singleton, List.range_succ, List.flatMap_append,
        earlier, ← ih, List.flatMap_singleton]

theorem flatMap_range_ite {α : Type} (f : Nat → List α) (count position : Nat) :
    (List.range count).flatMap (fun i => if i = position then f i else []) =
      if position < count then f position else [] := by
  induction count with
  | zero => rfl
  | succ count ih =>
      rw [List.range_succ, List.flatMap_append, List.flatMap_singleton, ih]
      rcases Nat.lt_trichotomy position count with less | rfl | greater
      · rw [if_pos less, if_neg (Nat.ne_of_gt less), if_pos (Nat.lt_succ_of_lt less),
          List.append_nil]
      · simp
      · rw [if_neg (Nat.lt_asymm greater), if_neg (Nat.ne_of_lt greater),
          if_neg (Nat.not_lt.mpr greater), List.append_nil]

namespace RawConfig

variable {config : RawConfig} {place : ConfigPlace} {problem : ConfigProblem}

structure Valid (config : RawConfig) : Prop where
  tick : config.daemon.tickIntervalSeconds ≠ some 0
  capacity : config.rules.length ≤ config.daemon.maxRules.getD 64
  allowance : ∀ allowance, config.allowance = some allowance →
    1 ≤ allowance.dailyMinutes ∧ allowance.dailyMinutes ≤ 1440
  ids : config.ids.Nodup
  rules : ∀ rule ∈ config.rules, rule.Valid

/-- What is wrong at a place, stated without the checks.  Only a repeated id depends on the rules
before it. -/
inductive Wrong (config : RawConfig) : ConfigPlace → ConfigProblem → Prop
  | tick (zero : config.daemon.tickIntervalSeconds = some 0) :
      Wrong config .tick .zeroTickInterval
  | capacity (few : config.daemon.maxRules.getD 64 < config.rules.length) :
      Wrong config .capacity
        (.tooManyRules (config.daemon.maxRules.getD 64) config.rules.length)
  | allowance {allowance} (given : config.allowance = some allowance)
      (outside : allowance.dailyMinutes = 0 ∨ 1440 < allowance.dailyMinutes) :
      Wrong config .allowance .allowanceOutOfRange
  | repeated {position rule id} (written : config.rules[position]? = some rule)
      (given : rule.id = some id)
      (earlier : ∃ other ∈ config.rules.take position, other.id = some id) :
      Wrong config (.repeated position) (.duplicateId id)
  | rule {position rule part problem} (written : config.rules[position]? = some rule)
      (wrong : rule.Wrong part problem) :
      Wrong config (.rule position part) problem

theorem problems_eq_nil_iff_valid : config.problems = [] ↔ config.Valid := by
  have tick : config.tickProblems = [] ↔ config.daemon.tickIntervalSeconds ≠ some 0 := by
    simp [tickProblems]
  have ids : repeated [] config.ids = [] ↔ config.ids.Nodup := by
    simp [repeated_eq_nil_iff]
  rw [problems_eq_nil_iff, tick, capacityProblems_eq_nil_iff, allowanceProblems_eq_nil_iff, ids]
  simp only [RawRule.problems_eq_nil_iff_valid]
  constructor
  · rintro ⟨tick, capacity, allowance, ids, rules⟩
    exact ⟨tick, capacity, allowance, ids, rules⟩
  · rintro ⟨tick, capacity, allowance, ids, rules⟩
    exact ⟨tick, capacity, allowance, ids, rules⟩

theorem repeated_concat (seen ids : List String) (id : String) :
    repeated seen (ids ++ [id]) =
      repeated seen ids ++ if id ∈ seen ∨ id ∈ ids then [id] else [] := by
  induction ids generalizing seen with
  | nil => simp [repeated]
  | cons first rest ih =>
      rw [List.cons_append, repeated, repeated, ih, ih]
      by_cases again : first ∈ seen
      · have same : id ∈ seen ∨ id ∈ first :: rest ↔ id ∈ seen ∨ id ∈ rest := by
          refine ⟨?_, Or.imp_right (List.mem_cons_of_mem first)⟩
          rintro (earlier | here)
          · exact .inl earlier
          · rcases List.mem_cons.mp here with rfl | later
            · exact .inl again
            · exact .inr later
        simp only [again, if_true, same, List.cons_append]
      · have same : id ∈ first :: seen ∨ id ∈ rest ↔ id ∈ seen ∨ id ∈ first :: rest := by
          simp only [List.mem_cons, or_assoc, or_left_comm]
        simp only [again, if_false, same]

theorem count_repeated (ids : List String) (id : String) :
    (repeated [] ids).count id = ids.count id - 1 := by
  induction ids using List.reverseRecOn with
  | nil => rfl
  | append_singleton before last ih =>
      simp only [repeated_concat, List.count_append, ih, List.not_mem_nil, false_or]
      by_cases here : last = id
      · subst here
        by_cases again : last ∈ before
        · have positive := List.count_pos_iff.mpr again
          simp only [again, if_true, List.count_singleton_self]
          omega
        · simp [again, List.count_eq_zero_of_not_mem again]
      · have elsewhere : id ∉ [last] := by simpa using Ne.symm here
        split <;> simp [List.count_eq_zero_of_not_mem elsewhere]

theorem duplicateId_not_mem_of_rule {rule : RawRule} {id : String} :
    .duplicateId id ∉ rule.problems := by
  intro reported
  rw [RawRule.problems_eq_flatMap] at reported
  obtain ⟨part, _, ofPart⟩ := List.mem_flatMap.mp reported
  cases RawRule.wrong_of_mem_problemsOf ofPart

theorem count_duplicateId (config : RawConfig) (id : String) :
    config.problems.count (.duplicateId id) = config.ids.count id - 1 := by
  have tick : .duplicateId id ∉ config.tickProblems := by
    simp [tickProblems]
  have capacity : .duplicateId id ∉ config.capacityProblems := by
    simp [capacityProblems]
  have allowance : .duplicateId id ∉ config.allowanceProblems := by
    unfold allowanceProblems
    cases config.allowance <;> simp
  have rules : .duplicateId id ∉ config.rules.flatMap RawRule.problems := by
    intro reported
    obtain ⟨rule, _, ofRule⟩ := List.mem_flatMap.mp reported
    exact duplicateId_not_mem_of_rule ofRule
  have injective : Function.Injective ConfigProblem.duplicateId := fun _ _ => by simp
  rw [problems, List.count_append, List.count_append, List.count_append, List.count_append,
    List.count_eq_zero_of_not_mem tick, List.count_eq_zero_of_not_mem capacity,
    List.count_eq_zero_of_not_mem allowance, List.count_eq_zero_of_not_mem rules,
    List.count_map_of_injective _ _ injective, count_repeated]
  omega

/-- The places that come before those of single rules. -/
def commonPlaces (config : RawConfig) : List ConfigPlace :=
  [.tick, .capacity, .allowance] ++ (List.range config.rules.length).map .repeated

def places (config : RawConfig) : List ConfigPlace :=
  config.commonPlaces ++ (List.range config.rules.length).flatMap fun position =>
    RulePart.inOrder.map (.rule position)

def repetitionAt (rules : List RawRule) (position : Nat) : List ConfigProblem :=
  match (rules[position]?).bind (·.id) with
  | none => []
  | some id => if id ∈ (rules.take position).filterMap (·.id) then [.duplicateId id] else []

def problemsAt (config : RawConfig) : ConfigPlace → List ConfigProblem
  | .tick => config.tickProblems
  | .capacity => config.capacityProblems
  | .allowance => config.allowanceProblems
  | .repeated position => repetitionAt config.rules position
  | .rule position part => ((config.rules[position]?).map (·.problemsOf part)).getD []

def located (config : RawConfig) : List (ConfigPlace × ConfigProblem) :=
  config.places.flatMap fun place => (config.problemsAt place).map (place, ·)

/-- What `problems` reports about one rule by itself. -/
def problemsAbout (config : RawConfig) (position : Nat) : List ConfigProblem :=
  (config.located.filter fun found => found.1.rule? = some position).map Prod.snd

theorem repeated_eq_flatMap (rules : List RawRule) :
    (repeated [] (rules.filterMap (·.id))).map ConfigProblem.duplicateId =
      (List.range rules.length).flatMap (repetitionAt rules) := by
  refine eq_flatMap_range
    (fun rules => (repeated [] (rules.filterMap (·.id))).map ConfigProblem.duplicateId)
    repetitionAt rfl (fun before last => ?_) (fun before last position within => ?_) rules
  · cases given : last.id with
    | none => simp [repetitionAt, given]
    | some id =>
        simp [repetitionAt, given, repeated_concat]
        split <;> rfl
  · rw [repetitionAt, List.getElem?_append_left within, List.take_append_of_le_length within.le]
    rfl

theorem flatMap_rules (rules : List RawRule) :
    rules.flatMap RawRule.problems =
      (List.range rules.length).flatMap fun position =>
        ((rules[position]?).map RawRule.problems).getD [] := by
  refine eq_flatMap_range (List.flatMap RawRule.problems)
    (fun rules position => ((rules[position]?).map RawRule.problems).getD []) rfl
    (fun before last => ?_) (fun before last position within => ?_) rules
  · simp
  · rw [List.getElem?_append_left within]

theorem flatMap_parts (config : RawConfig) (position : Nat) :
    (RulePart.inOrder.map (.rule position)).flatMap config.problemsAt =
      ((config.rules[position]?).map RawRule.problems).getD [] := by
  cases written : config.rules[position]? with
  | none => simp [problemsAt, List.flatMap_map, written]
  | some rule => simp [problemsAt, List.flatMap_map, written, RawRule.problems_eq_flatMap]

theorem map_snd_located (config : RawConfig) : config.located.map Prod.snd = config.problems := by
  have unplaced : config.located.map Prod.snd = config.places.flatMap config.problemsAt := by
    simp only [located, List.map_flatMap, List.map_map, Function.comp_def, List.map_id']
  rw [unplaced, places, commonPlaces, List.flatMap_append, List.flatMap_append, List.flatMap_map,
    List.flatMap_assoc]
  simp only [flatMap_parts]
  rw [← flatMap_rules, problems, ids, repeated_eq_flatMap]
  simp [problemsAt]

theorem before_rule_of_mem_commonPlaces (member : place ∈ config.commonPlaces) (position : Nat)
    (part : RulePart) : place.Before (.rule position part) := by
  rcases List.mem_append.mp member with first | repeated
  · simp only [List.mem_cons, List.not_mem_nil, or_false] at first
    rcases first with rfl | rfl | rfl <;> exact .left _ _ (by decide)
  · obtain ⟨other, _, rfl⟩ := List.mem_map.mp repeated
    exact .left _ _ (Nat.lt_succ_self 3)

theorem pairwise_commonPlaces (config : RawConfig) :
    config.commonPlaces.Pairwise ConfigPlace.Before := by
  refine List.pairwise_append.mpr ⟨?_, ?_, ?_⟩
  · simp [ConfigPlace.Before, ConfigPlace.rank, Prod.lex_def]
  · exact List.pairwise_map.mpr (List.pairwise_lt_range.imp fun less => .right _ (.left _ _ less))
  · intro place first other repeated
    obtain ⟨position, _, rfl⟩ := List.mem_map.mp repeated
    simp only [List.mem_cons, List.not_mem_nil, or_false] at first
    rcases first with rfl | rfl | rfl <;> exact .left _ _ (by decide)

theorem pairwise_places (config : RawConfig) : config.places.Pairwise ConfigPlace.Before := by
  have parts (position : Nat) :
      (RulePart.inOrder.map (.rule position)).Pairwise ConfigPlace.Before := by
    simp [RulePart.inOrder, ConfigPlace.Before, ConfigPlace.rank, RulePart.rank, Prod.lex_def]
  refine List.pairwise_append.mpr ⟨config.pairwise_commonPlaces, ?_, ?_⟩
  · refine List.pairwise_flatMap.mpr ⟨fun position _ => parts position, ?_⟩
    refine List.pairwise_lt_range.imp fun less place member other memberToo => ?_
    obtain ⟨_, _, rfl⟩ := List.mem_map.mp member
    obtain ⟨_, _, rfl⟩ := List.mem_map.mp memberToo
    exact .right _ (.left _ _ less)
  · intro place member other ofRules
    obtain ⟨position, _, ofRule⟩ := List.mem_flatMap.mp ofRules
    obtain ⟨part, _, rfl⟩ := List.mem_map.mp ofRule
    exact before_rule_of_mem_commonPlaces member position part

theorem length_problemsAt_le (config : RawConfig) (place : ConfigPlace) :
    (config.problemsAt place).length ≤ 1 := by
  cases place with
  | tick =>
      rw [problemsAt, tickProblems]
      split <;> decide
  | capacity =>
      rw [problemsAt, capacityProblems]
      split <;> simp
  | allowance =>
      rw [problemsAt, allowanceProblems]
      (repeat' split) <;> decide
  | repeated position =>
      rw [problemsAt, repetitionAt]
      (repeat' split) <;> simp
  | rule position part =>
      rw [problemsAt]
      cases config.rules[position]? with
      | none => exact Nat.zero_le 1
      | some rule => exact rule.length_problemsOf_le part

theorem pairwise_located (config : RawConfig) :
    config.located.Pairwise fun earlier later => earlier.1.Before later.1 := by
  refine List.pairwise_flatMap.mpr ⟨fun place _ => ?_, ?_⟩
  · have short := config.length_problemsAt_le place
    match config.problemsAt place, short with
    | [], _ => exact .nil
    | [problem], _ => exact List.pairwise_singleton ..
  · refine config.pairwise_places.imp fun before x member y other => ?_
    obtain ⟨_, _, rfl⟩ := List.mem_map.mp member
    obtain ⟨_, _, rfl⟩ := List.mem_map.mp other
    exact before

theorem wrong_of_mem_problemsAt (reported : problem ∈ config.problemsAt place) :
    config.Wrong place problem := by
  cases place with
  | tick =>
      simp only [problemsAt, tickProblems] at reported
      split at reported
      · rename_i zero
        cases List.mem_singleton.mp reported
        exact .tick zero
      · contradiction
  | capacity =>
      simp only [problemsAt, capacityProblems] at reported
      split at reported
      · rename_i few
        cases List.mem_singleton.mp reported
        exact .capacity few
      · contradiction
  | allowance =>
      simp only [problemsAt, allowanceProblems] at reported
      split at reported
      · contradiction
      · rename_i allowance given
        split at reported
        · rename_i outside
          cases List.mem_singleton.mp reported
          exact .allowance given outside
        · contradiction
  | repeated position =>
      simp only [problemsAt, repetitionAt] at reported
      split at reported
      · contradiction
      · rename_i id found
        obtain ⟨rule, written, given⟩ := Option.bind_eq_some_iff.mp found
        split at reported
        · rename_i earlier
          cases List.mem_singleton.mp reported
          exact .repeated written given (List.mem_filterMap.mp earlier)
        · contradiction
  | rule position part =>
      cases written : config.rules[position]? with
      | none => simp [problemsAt, written] at reported
      | some rule =>
          rw [problemsAt, written] at reported
          exact .rule written (RawRule.wrong_of_mem_problemsOf reported)

theorem mem_problemsAt_of_wrong (wrong : config.Wrong place problem) :
    problem ∈ config.problemsAt place := by
  cases wrong with
  | tick zero => simp [problemsAt, tickProblems, zero]
  | capacity few => 
      have few' : config.maxRules < config.rules.length := few
      simp [problemsAt, capacityProblems, few']
      rfl
  | allowance given outside => simp [problemsAt, allowanceProblems, given, outside, maxDailyMinutes]
  | repeated written given earlier => simp [problemsAt, repetitionAt, written, given, earlier]
  | rule written wrong =>
      rw [problemsAt, written]
      exact RawRule.mem_problemsOf_of_wrong wrong

theorem mem_places_of_wrong (wrong : config.Wrong place problem) : place ∈ config.places := by
  have within {position : Nat} {rule : RawRule} (written : config.rules[position]? = some rule) :
      position ∈ List.range config.rules.length :=
    List.mem_range.mpr (List.getElem?_eq_some_iff.mp written).1
  have everyPart (part : RulePart) : part ∈ RulePart.inOrder := by
    cases part <;> decide
  cases wrong with
  | tick | capacity | allowance => simp [places, commonPlaces]
  | repeated written => simpa [places, commonPlaces] using within written
  | rule written => simpa [places, commonPlaces, everyPart] using within written

theorem mem_located_iff : (place, problem) ∈ config.located ↔ config.Wrong place problem := by
  constructor
  · intro found
    obtain ⟨_, _, here⟩ := List.mem_flatMap.mp found
    obtain ⟨_, reported, same⟩ := List.mem_map.mp here
    cases same
    exact wrong_of_mem_problemsAt reported
  · intro wrong
    exact List.mem_flatMap.mpr ⟨place, mem_places_of_wrong wrong,
      List.mem_map.mpr ⟨problem, mem_problemsAt_of_wrong wrong, rfl⟩⟩

theorem problemsAbout_eq (config : RawConfig) (position : Nat) :
    config.problemsAbout position =
      ((config.rules[position]?).map RawRule.problems).getD [] := by
  have kept (place : ConfigPlace) :
      (((config.problemsAt place).map (place, ·)).filter fun found =>
          found.1.rule? = some position).map Prod.snd =
        if place.rule? = some position then config.problemsAt place else [] := by
    by_cases here : place.rule? = some position <;>
      simp [here, List.filter_map, Function.comp_def]
  have ofRule (i : Nat) :
      (RulePart.inOrder.map (.rule i)).flatMap (fun place =>
          if place.rule? = some position then config.problemsAt place else []) =
        if i = position then ((config.rules[i]?).map RawRule.problems).getD [] else [] := by
    rw [← flatMap_parts]
    by_cases here : i = position <;> simp [List.flatMap_map, ConfigPlace.rule?, here]
  have elsewhere : (config.commonPlaces.flatMap fun place =>
      if place.rule? = some position then config.problemsAt place else []) = [] := by
    simp [commonPlaces, List.flatMap_eq_nil_iff, ConfigPlace.rule?]
  rw [problemsAbout, located, List.filter_flatMap, List.map_flatMap]
  simp only [kept]
  rw [places, List.flatMap_append, elsewhere, List.nil_append, List.flatMap_assoc]
  simp only [ofRule, flatMap_range_ite]
  by_cases within : position < config.rules.length
  · rw [if_pos within]
  · rw [if_neg within, List.getElem?_eq_none (Nat.not_lt.mp within)]
    rfl

/-- `problems` is empty if and only if the configuration is valid.  In general it lists exactly what
is `Wrong`, ordered by place: each rule whose id was given before is reported once, and the report
about a single rule is that of `RawRule.problems` for it, whatever the other rules are. -/
theorem problems_exact (config : RawConfig) :
    (config.problems = [] ↔ config.Valid) ∧
      config.located.map Prod.snd = config.problems ∧
      (config.located.Pairwise fun earlier later => earlier.1.Before later.1) ∧
      (∀ place problem, (place, problem) ∈ config.located ↔ config.Wrong place problem) ∧
      (∀ id, config.problems.count (.duplicateId id) = config.ids.count id - 1) ∧
      ∀ position, config.problemsAbout position =
        ((config.rules[position]?).map RawRule.problems).getD [] :=
  ⟨problems_eq_nil_iff_valid, config.map_snd_located, config.pairwise_located,
    fun _ _ => mem_located_iff, config.count_duplicateId, config.problemsAbout_eq⟩

end RawConfig

end Curfew
