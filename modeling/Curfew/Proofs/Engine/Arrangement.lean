import Curfew.Engine.Arrangement
import Curfew.Protector.Record
import Curfew.Proofs.Engine.Allowance
import Mathlib.Data.List.Nodup

namespace Curfew

/-! Nothing that an engine answers depends on the order of its rules, neither on that of the
policy nor on that in which they are gone through later. -/

namespace Arrangement

variable {zone : Zone} {arrangement : Arrangement} {engine : Engine}

theorem sorted_eq_of_perm {ids ascending : List String} (same : ids.Perm ascending)
    (ordered : ascending.Pairwise (· < ·)) : sorted ids = ascending := by
  have pairwise : (sorted ids).Pairwise (· ≤ ·) := by
    have transitive (a b c : String) (first : decide (a ≤ b) = true)
        (second : decide (b ≤ c) = true) : decide (a ≤ c) = true :=
      decide_eq_true (String.le_trans (of_decide_eq_true first) (of_decide_eq_true second))
    have total (a b : String) : (decide (a ≤ b) || decide (b ≤ a)) = true := by
      simpa using String.le_total a b
    exact (List.pairwise_mergeSort transitive total ids).imp of_decide_eq_true
  have increasing : ascending.Pairwise (· ≤ ·) :=
    ordered.imp fun less greater => String.lt_irrefl _ (String.lt_trans less greater)
  exact List.Perm.eq_of_pairwise (fun _ _ _ _ => String.le_antisymm) pairwise increasing
    ((List.mergeSort_perm ids _).trans same)

/-- The arrangement holds the rules of the engine in some order, and all else as the engine does. -/
structure Arranges (arrangement : Arrangement) (engine : Engine) : Prop where
  distinct : (arrangement.rules.map Prod.fst).Nodup
  rules : ∀ id, arrangement.rule? id = engine.rule? id
  capacity : arrangement.capacity = engine.rules.capacity
  allowance : arrangement.allowance = engine.allowance
  resetsDaily : arrangement.resetsDaily = engine.resetsDaily
  blockPolicy : arrangement.blockPolicy = engine.blockPolicy

namespace Arranges

theorem perm (arranges : Arranges arrangement engine) :
    arrangement.rules.Perm engine.rules.rules.entries :=
  Entries.perm_of_lookup arranges.distinct (Entries.nodup_of_ascending engine.rules.rules.ascending)
    arranges.rules

theorem rearranged (arranges : Arranges arrangement engine) {rules : List (String × Rule)}
    (same : rules.Perm arrangement.rules) : Arranges { arrangement with rules } engine where
  distinct := (same.map Prod.fst).nodup_iff.mpr arranges.distinct
  rules id := (Entries.lookup_of_perm arranges.distinct same.symm id).symm.trans (arranges.rules id)
  capacity := arranges.capacity
  allowance := arranges.allowance
  resetsDaily := arranges.resetsDaily
  blockPolicy := arranges.blockPolicy

theorem mapRules (arranges : Arranges arrangement engine) {f : String → Rule → Rule}
    {rules : RuleGroup} (capacity : rules.capacity = engine.rules.capacity)
    (changed : ∀ id, rules.get? id = (engine.rule? id).map (f id)) :
    Arranges (arrangement.mapRules f) { engine with rules } where
  distinct := by
    simpa [Arrangement.mapRules, Function.comp_def] using arranges.distinct
  rules id := by
    have found := Entries.lookup_map f id arrangement.rules
    exact found.trans ((congrArg _ (arranges.rules id)).trans (changed id).symm)
  capacity := arranges.capacity.trans capacity.symm
  allowance := arranges.allowance
  resetsDaily := arranges.resetsDaily
  blockPolicy := arranges.blockPolicy

theorem set (arranges : Arranges arrangement engine) {id : String} {rule : Rule}
    (found : engine.rule? id = some rule) (protector : Protector) :
    Arranges (arrangement.set id { rule with protector })
      (engine.setProtector id rule protector) := by
  refine arranges.mapRules rfl fun other => ?_
  rw [RuleGroup.get?_set]
  split
  · rename_i same
    rw [← same, found]
    rfl
  · exact Option.map_id'.symm

theorem add (arranges : Arranges arrangement engine) (id : String) (rule : Rule) :
    Arranges (arrangement.add id rule).1
        { engine with rules := (engine.rules.insert id rule).1 } ∧
      (arrangement.add id rule).2 = (engine.rules.insert id rule).2 := by
  have length : arrangement.rules.length = engine.rules.size := arranges.perm.length_eq
  have found : arrangement.rule? id = engine.rules.get? id := arranges.rules id
  rcases engine.rules.insert_cases id rule with
    ⟨old, present, refused⟩ | ⟨absent, full, refused⟩ | ⟨absent, room, inserted⟩
  · have added : arrangement.add id rule = (arrangement, .error (.duplicate id)) := by
      simp [Arrangement.add, found, present]
    rw [added, refused]
    exact ⟨arranges, rfl⟩
  · have added : arrangement.add id rule =
        (arrangement, .error (.groupFull engine.rules.capacity)) := by
      simp [Arrangement.add, found, absent, length, arranges.capacity, full]
    rw [added, refused]
    exact ⟨arranges, rfl⟩
  · have added : arrangement.add id rule =
        ({ arrangement with rules := (id, rule) :: arrangement.rules }, .ok ()) := by
      simp [Arrangement.add, found, absent, length, arranges.capacity, Nat.not_le.mpr room]
    rw [added, inserted]
    refine ⟨⟨List.nodup_cons.mpr ⟨fun member => ?_, arranges.distinct⟩, fun other => ?_,
      arranges.capacity, arranges.allowance, arranges.resetsDaily, arranges.blockPolicy⟩, rfl⟩
    · obtain ⟨entry, inRules, same⟩ := List.mem_map.mp member
      exact Entries.lookup_eq_none_iff.mp (found.trans absent) entry inRules same
    · have there := Table.get?_insert engine.rules.rules id rule other
      refine Eq.trans ?_ there.symm
      simp only [rule?, Entries.lookup, eq_comm (a := other)]
      split
      · rfl
      · exact arranges.rules other

theorem insert (arranges : Arranges arrangement engine) (policy : RulePolicy) (now : Instant) :
    Arranges (arrangement.insert policy now).1 (engine.insert policy now).1 ∧
      (arrangement.insert policy now).2 = (engine.insert policy now).2 := by
  obtain ⟨next, answer⟩ := arranges.add policy.id (policy.toRule now)
  exact ⟨next, congrArg (Except.mapError Engine.Failure.refused) answer⟩

theorem remove (arranges : Arranges arrangement engine) (id : String) :
    Arranges (arrangement.remove id).1 (engine.remove id).1 ∧
      (arrangement.remove id).2 = (engine.remove id).2 := by
  have left : (engine.remove id).1 = { engine with rules := (engine.rules.remove id).1 } :=
    Engine.next_remove .utc engine id
  constructor
  · rw [left]
    refine ⟨arranges.distinct.sublist (List.filter_sublist.map Prod.fst), fun other => ?_,
      arranges.capacity, arranges.allowance, arranges.resetsDaily, arranges.blockPolicy⟩
    have erased := Table.get?_erase engine.rules.rules id other
    refine Eq.trans ?_ erased.symm
    by_cases same : id = other
    · subst same
      rw [if_pos rfl]
      exact Entries.lookup_remove_self id arrangement.rules
    · rw [if_neg same]
      exact (Entries.lookup_remove_other (Ne.symm same) _).trans (arranges.rules other)
  · have answered : (engine.remove id).2 =
        (engine.rule? id).elim (.error (.refused (.notFound id))) .ok := by
      unfold Engine.remove RuleGroup.remove Engine.rule? RuleGroup.get?
      cases engine.rules.rules.get? id <;> rfl
    rw [answered, ← arranges.rules id, Arrangement.remove]
    cases arrangement.rule? id <;> rfl

theorem act {α : Type} (arranges : Arranges arrangement engine) (expected : ProtectorKind)
    (change : Protector → Option (Protector × α)) (id : String) :
    Arranges (arrangement.act expected change id).1 (engine.act expected change id).1 ∧
      (arrangement.act expected change id).2 = (engine.act expected change id).2 := by
  unfold Arrangement.act Engine.act
  rw [arranges.rules id]
  cases found : engine.rule? id with
  | none => exact ⟨arranges, rfl⟩
  | some rule =>
      simp only
      cases change rule.protector with
      | none => exact ⟨arranges, rfl⟩
      | some changed => exact ⟨arranges.set found _, rfl⟩

/-- Ids that are picked by their rules come out in the order of the table when they are sorted. -/
theorem sorted_filter (arranges : Arranges arrangement engine) (keep : String × Rule → Bool) :
    sorted ((arrangement.rules.filter keep).map Prod.fst) =
      (engine.rules.rules.entries.filter keep).map Prod.fst :=
  sorted_eq_of_perm ((arranges.perm.filter keep).map Prod.fst)
    (Table.pairwise_keys_filter ..)

theorem decision (arranges : Arranges arrangement engine) (day : Weekday) (time : TimeOfDay) :
    arrangement.decision day time = engine.decision day time := by
  have rulesBlock : arrangement.rulesBlock day time = engine.rulesBlock day time := by
    rw [Arrangement.rulesBlock, Engine.rulesBlock, arranges.blockPolicy]
    cases engine.blockPolicy with
    | any => exact arranges.perm.any_eq
    | all =>
        exact congrArg₂ (!· && ·) arranges.perm.isEmpty_eq arranges.perm.all_eq
  have ruleReasons : arrangement.ruleReasons day time = engine.ruleReasons day time := by
    unfold Arrangement.ruleReasons Engine.ruleReasons RuleGroup.effective
    rw [rulesBlock, arranges.sorted_filter]
  have allowanceReasons : arrangement.allowanceReasons = engine.allowanceReasons := by
    cases given : engine.allowance <;>
      simp [Arrangement.allowanceReasons, Engine.allowanceReasons, arranges.allowance, given]
  rw [Arrangement.decision, Engine.decision, ruleReasons, allowanceReasons]

theorem savedStates (arranges : Arranges arrangement engine) :
    arrangement.savedStates = engine.savedStates := by
  refine Table.ext_get? fun id => ?_
  have distinct : ((arrangement.rules.map fun entry =>
      (entry.1, SavedState.capture entry.2.protector)).map Prod.fst).Nodup := by
    simpa [Function.comp_def] using arranges.distinct
  rw [Arrangement.savedStates, Table.get?_ofList distinct, Engine.savedStates, Table.get?_map]
  have found := Entries.lookup_map (fun _ rule => SavedState.capture rule.protector) id
    arrangement.rules
  exact found.trans (congrArg _ (arranges.rules id))

theorem synchronize (arranges : Arranges arrangement engine) (zone : Zone) (now : Instant) :
    Arranges (arrangement.synchronize zone now).1 (engine.synchronize zone now).1 ∧
      (arrangement.synchronize zone now).2 = (engine.synchronize zone now).2 := by
  have lifted : arrangement.lifted now = engine.lifted now := arranges.sorted_filter _
  have next : Arranges (arrangement.mapRules fun _ rule => rule.synchronize now)
      { engine with rules := engine.rules.synchronize now } :=
    arranges.mapRules rfl fun id => Table.get?_map ..
  unfold Arrangement.synchronize Engine.synchronize
  rw [lifted, arranges.allowance, arranges.resetsDaily]
  cases held : engine.allowance with
  | none => exact ⟨⟨next.distinct, next.rules, next.capacity, next.allowance.trans held,
      next.resetsDaily, next.blockPolicy⟩, rfl⟩
  | some tracker => exact ⟨⟨next.distinct, next.rules, next.capacity, rfl, next.resetsDaily,
      next.blockPolicy⟩, rfl⟩

theorem restore (arranges : Arranges arrangement engine) (states : SavedStates) :
    Arranges (arrangement.restore states).1 (engine.restore states).1 ∧
      (arrangement.restore states).2 = (engine.restore states).2 := by
  have restored : Arranges
      (arrangement.mapRules fun id rule => (Engine.restoreRule? states id rule).getD rule)
      { engine with rules := (engine.restore states).1.rules } :=
    arranges.mapRules rfl fun id => Table.get?_map ..
  exact ⟨restored, arranges.perm.countP_eq _⟩

theorem perform (arranges : Arranges arrangement engine) (zone : Zone)
    (operation : Engine.Operation) :
    Arranges (arrangement.perform zone operation).1 (engine.perform zone operation).1 ∧
      (arrangement.perform zone operation).2 = (engine.perform zone operation).2 := by
  have told {α : Type} {left : Arrangement × Except Engine.Failure α}
      {right : Engine × Except Engine.Failure α} (tell : α → Engine.Answer)
      (same : Arranges left.1 right.1 ∧ left.2 = right.2) :
      Arranges (left.map id (·.map tell)).1 (right.map id (·.map tell)).1 ∧
        (left.map id (·.map tell)).2 = (right.map id (·.map tell)).2 :=
    ⟨same.1, congrArg (Except.map tell) same.2⟩
  cases operation with
  | synchronize now => exact told .events (arranges.synchronize zone now)
  | decision day time => exact ⟨arranges, congrArg _ (congrArg _ (arranges.decision day time))⟩
  | decisionAt now => exact ⟨arranges, congrArg _ (congrArg _ (arranges.decision _ _))⟩
  | plead id now => exact told .plea (arranges.act .plea (Protector.onPlea (·.plead now)) id)
  | rearm id => exact told .rearm (arranges.act .plea (Protector.onPlea (·.rearm)) id)
  | start id now =>
      exact told (fun _ => .started)
        (arranges.act .timed (Protector.onTimed fun timed => (timed.start now, ())) id)
  | insert policy now => exact told (fun _ => .inserted) (arranges.insert policy now)
  | remove id => exact told .removed (arranges.remove id)
  | save => exact ⟨arranges, congrArg _ (congrArg _ arranges.savedStates)⟩
  | restore states =>
      obtain ⟨next, count⟩ := arranges.restore states
      exact ⟨next, congrArg _ (congrArg _ count)⟩

/-- A run of the arrangement is answered as the run of the engine, however the rules are reordered
before each operation. -/
theorem run (arranges : Arranges arrangement engine) (zone : Zone) (order : Order) (step : Nat)
    (operations : List Engine.Operation) :
    Arranges (arrangement.run zone order step operations).1 (engine.run zone operations).1 ∧
      (arrangement.run zone order step operations).2 = (engine.run zone operations).2 := by
  induction operations generalizing arrangement engine step with
  | nil => exact ⟨arranges, rfl⟩
  | cons operation rest ih =>
      have arranged := arranges.rearranged (order.perm step arrangement.rules)
      obtain ⟨next, answer⟩ := arranged.perform zone operation
      obtain ⟨last, answers⟩ := ih next (step + 1)
      simp only [Arrangement.run, Engine.run]
      exact ⟨last, congrArg₂ _ answer answers⟩

end Arranges

theorem Arranges.addAll (arranges : Arranges arrangement engine) {now : Instant}
    {policies : List RulePolicy} {rules : RuleGroup}
    (added : Engine.insertAll now policies engine.rules = .ok rules) :
    ∃ after, Arrangement.addAll now policies arrangement = .ok after ∧
      Arranges after { engine with rules } := by
  induction policies generalizing arrangement engine with
  | nil =>
      cases added
      exact ⟨arrangement, rfl, arranges⟩
  | cons policy rest ih =>
      obtain ⟨next, answer⟩ := arranges.add policy.id (policy.toRule now)
      simp only [Engine.insertAll] at added
      simp only [Arrangement.addAll]
      generalize arrangement.add policy.id (policy.toRule now) = first at next answer ⊢
      generalize engine.rules.insert policy.id (policy.toRule now) = second at next answer added
      obtain ⟨grown, _ | _⟩ := second
      · contradiction
      · obtain ⟨arranged, told⟩ := first
        cases answer
        exact @ih _ { engine with rules := grown } next added

/-- `Arrangement.ofPolicy` arranges the engine of `Engine.ofPolicy`, where there is one. -/
theorem arranges_ofPolicy {policy : Policy} {saved : Option AllowanceTracker} {begin : Instant}
    (addable : Engine.Addable policy.rules (.withCapacity policy.daemon.maxRules)) :
    (policy.LacksDate zone saved begin →
        ofPolicy zone policy saved begin = .error .noLocalDate) ∧
      (¬ policy.LacksDate zone saved begin →
        ∃ arrangement, ofPolicy zone policy saved begin = .ok arrangement ∧
          Arranges arrangement (.initial zone policy saved begin)) := by
  have bare (allowance : Option AllowanceTracker) : Arranges
      { rules := []
        capacity := policy.daemon.maxRules
        allowance
        resetsDaily := (policy.allowance.map (·.resetDaily)).getD false
        blockPolicy := policy.daemon.blockPolicy }
      { rules := .withCapacity policy.daemon.maxRules
        allowance
        resetsDaily := (policy.allowance.map (·.resetDaily)).getD false
        blockPolicy := policy.daemon.blockPolicy } :=
    ⟨.nil, fun _ => rfl, rfl, rfl, rfl, rfl⟩
  have inserted := @Engine.insertAll_eq_ok policy begin addable
  obtain ⟨arranged, added, arranges⟩ := (bare none).addAll inserted
  constructor
  · intro lacks
    have missing := Policy.initialTracker?_of_lacksDate lacks
    simp [ofPolicy, added, missing, bind, Except.bind, Except.mapError, throw, throwThe,
      MonadExceptOf.throw]
  · intro dated
    have found := Policy.initialTracker?_of_not_lacksDate dated
    refine ⟨{ arranged with
      allowance := policy.allowance.map fun terms => terms.initialTracker zone begin saved }, ?_,
      arranges.distinct, arranges.rules, arranges.capacity, rfl, arranges.resetsDaily,
      arranges.blockPolicy⟩
    simp [ofPolicy, added, found, bind, Except.bind, Except.mapError, pure, Except.pure]

end Arrangement

namespace Engine

variable {zone : Zone} {policy : Policy} {saved : Option AllowanceTracker} {begin : Instant}

theorem addable_withCapacity_iff {capacity : Nat} {policies : List RulePolicy} :
    Addable policies (.withCapacity capacity) ↔
      (policies.map (·.id)).Nodup ∧ policies.length ≤ capacity := by
  have room : (RuleGroup.withCapacity capacity).size + policies.length ≤
      (RuleGroup.withCapacity capacity).capacity ↔ policies.length ≤ capacity := by
    simp [RuleGroup.withCapacity, RuleGroup.size, Table.size, Table.empty]
  exact ⟨fun addable => ⟨addable.distinct, room.mp addable.room⟩,
    fun ⟨distinct, fits⟩ => ⟨distinct, fun _ _ => rfl, room.mpr fits⟩⟩

/-- `addAll` gives the same table for any order of the policies. -/
theorem addAll_of_perm {policies others : List RulePolicy} (same : policies.Perm others)
    (distinct : (policies.map (·.id)).Nodup) (now : Instant) (group : RuleGroup) :
    addAll now policies group = addAll now others group := by
  refine same.foldl_eq' (fun first inFirst second inSecond group => ?_) group
  by_cases equal : first.id = second.id
  · rw [List.inj_on_of_nodup_map distinct inFirst inSecond equal]
  · exact congrArg (fun rules => { group with rules })
      (Table.insert_insert_comm group.rules equal _ _)

/-- No answer of a `run` depends on the order of the rules: neither on the order in which the policy
lists them, nor on that in which an unordered map goes through them, even if it changes from one
operation to the next.  Where `ofPolicy` breaks off it does so for every order. -/
theorem answers_of_perm {rules : List RulePolicy}
    (distinct : (policy.rules.map (·.id)).Nodup)
    (fits : policy.rules.length ≤ policy.daemon.maxRules) (same : policy.rules.Perm rules) :
    (policy.LacksDate zone saved begin →
      ofPolicy zone policy saved begin = .error .noLocalDate ∧
      ofPolicy zone { policy with rules } saved begin = .error .noLocalDate ∧
      Arrangement.ofPolicy zone { policy with rules } saved begin = .error .noLocalDate) ∧
    (¬ policy.LacksDate zone saved begin →
      ∃ engine permuted arrangement,
        ofPolicy zone policy saved begin = .ok engine ∧
        ofPolicy zone { policy with rules } saved begin = .ok permuted ∧
        Arrangement.ofPolicy zone { policy with rules } saved begin = .ok arrangement ∧
        ∀ operations,
          (permuted.run zone operations).2 = (engine.run zone operations).2 ∧
          (permuted.run zone operations).1.savedStates.toText =
            (engine.run zone operations).1.savedStates.toText ∧
          ∀ order,
            (arrangement.run zone order 0 operations).2 = (engine.run zone operations).2 ∧
            (arrangement.run zone order 0 operations).1.savedStates.toText =
              (engine.run zone operations).1.savedStates.toText) := by
  have addable := addable_withCapacity_iff.mpr ⟨distinct, fits⟩
  have addablePermuted : Addable rules (.withCapacity policy.daemon.maxRules) :=
    addable_withCapacity_iff.mpr ⟨(same.map _).nodup_iff.mp distinct, same.length_eq ▸ fits⟩
  obtain ⟨undated, arranged⟩ := @Arrangement.arranges_ofPolicy zone { policy with rules } saved
    begin addablePermuted
  constructor
  · intro lacks
    exact ⟨ofPolicy_of_lacksDate addable lacks,
      ofPolicy_of_lacksDate addablePermuted lacks,
      undated lacks⟩
  · intro dated
    have unmoved : initial zone { policy with rules } saved begin =
        initial zone policy saved begin := by
      unfold initial
      rw [addAll_of_perm same distinct]
    have built : ofPolicy zone { policy with rules } saved begin =
        .ok (initial zone { policy with rules } saved begin) :=
      ofPolicy_of_not_lacksDate addablePermuted dated
    obtain ⟨arrangement, found, arranges⟩ := arranged dated
    rw [unmoved] at built arranges
    refine ⟨_, _, arrangement, ofPolicy_of_not_lacksDate addable dated, built, found,
      fun operations => ⟨rfl, rfl, fun order => ?_⟩⟩
    obtain ⟨after, answers⟩ := arranges.run zone order 0 operations
    exact ⟨answers, congrArg _ after.savedStates⟩

/-- Two rules end at the same `synchronize` and are told in ascending order, though they are listed
and gone through in descending order. -/
theorem evening_backwards :
    ∃ permuted arrangement,
      ofPolicy .utc { Policy.evening with rules := Policy.evening.rules.reverse } none .epoch =
        .ok permuted ∧
      Arrangement.ofPolicy .utc { Policy.evening with rules := Policy.evening.rules.reverse } none
        .epoch = .ok arrangement ∧
      eventsOf (permuted.run .utc
        [.plead "bedtime" .epoch, .synchronize ⟨5400000, by decide, by decide⟩]).2 =
          [.lifted "bedtime", .lifted "focus"] ∧
      eventsOf (arrangement.run .utc ⟨fun _ rules => rules.reverse, fun _ => List.reverse_perm⟩ 0
        [.plead "bedtime" .epoch, .synchronize ⟨5400000, by decide, by decide⟩]).2 =
          [.lifted "bedtime", .lifted "focus"] := by
  obtain ⟨engine, permuted, arrangement, built, permutedBuilt, arranged, same⟩ :=
    (@answers_of_perm .utc .evening none .epoch _ (by decide) (by decide)
      Policy.evening.rules.reverse_perm.symm).2 fun ⟨_, _, lacks⟩ => lacks.not_none rfl
  cases (ofPolicy_evening ..).symm.trans built
  obtain ⟨answers, _, arrangements⟩ :=
    same [.plead "bedtime" .epoch, .synchronize ⟨5400000, by decide, by decide⟩]
  refine ⟨permuted, arrangement, permutedBuilt, arranged, ?_, ?_⟩
  · rw [answers]
    decide
  · rw [(arrangements _).1]
    decide

end Engine

end Curfew
