import Curfew.Proofs.Engine.Dates

namespace Curfew

/-! The engine of a policy: when there is one, and which rules it begins with. -/

theorem RuleGroup.get?_set (group : RuleGroup) (id : String) (rule : Rule) (other : String) :
    (group.set id rule).get? other = if id = other then some rule else group.get? other :=
  Table.get?_insert ..

namespace AllowancePolicy

variable {zone : Zone} {terms : AllowancePolicy} {now : Instant}
  {saved? : Option AllowanceTracker}

/-- `initialTracker?` has to compare the local date of the saved tracker with that of now, and one
of them is missing. -/
def LacksDate (zone : Zone) (terms : AllowancePolicy) (now : Instant)
    (saved? : Option AllowanceTracker) : Prop :=
  terms.resetDaily = true ∧ ∃ saved ∈ saved?,
    saved.remaining.milliseconds ≤ saved.allowance.milliseconds ∧ saved.allowance = terms.daily ∧
      (zone.hasDate saved.previous = false ∨ zone.hasDate now = false)

instance : Decidable (terms.LacksDate zone now saved?) :=
  inferInstanceAs (Decidable (_ ∧ ∃ saved ∈ saved?, _ ≤ _ ∧ _ ∧ _))

theorem LacksDate.not_none (lacks : terms.LacksDate zone now saved?) : saved? ≠ none := by
  obtain ⟨_, saved, given, _⟩ := lacks
  exact Option.ne_none_iff_exists'.mpr ⟨saved, given⟩

/-- The tracker that `initialTracker?` gives, and a full one where it breaks off. -/
def initialTracker (zone : Zone) (terms : AllowancePolicy) (now : Instant)
    (saved? : Option AllowanceTracker) : AllowanceTracker :=
  (terms.initialTracker? zone now saved?).getD (.full terms.daily now)

theorem initialTracker?_eq_none_iff :
    terms.initialTracker? zone now saved? = none ↔ terms.LacksDate zone now saved? := by
  cases saved? with
  | none => simp [initialTracker?, LacksDate]
  | some saved =>
      simp only [initialTracker?, LacksDate, Option.mem_some, exists_eq_left']
      by_cases exceeds : saved.remaining.milliseconds > saved.allowance.milliseconds
      · simp [exceeds, Nat.not_le.mpr exceeds]
      · by_cases other : saved.allowance ≠ terms.daily
        · simp [exceeds, other]
        · rw [if_neg exceeds, if_neg other, Option.map_eq_none_iff,
            AllowanceTracker.isStale?_eq_none_iff, AllowanceTracker.not_dated_iff]
          exact ⟨fun ⟨daily, missing⟩ =>
              ⟨daily, Nat.le_of_not_gt exceeds, not_not.mp other, missing⟩,
            fun ⟨daily, _, _, missing⟩ => ⟨daily, missing⟩⟩

theorem initialTracker?_eq_some (dated : ¬ terms.LacksDate zone now saved?) :
    terms.initialTracker? zone now saved? = some (terms.initialTracker zone now saved?) := by
  obtain ⟨tracker, found⟩ :=
    Option.ne_none_iff_exists'.mp (mt initialTracker?_eq_none_iff.mp dated)
  rw [initialTracker, found]
  rfl

end AllowancePolicy

/-- `ofPolicy` breaks off for want of a local date. -/
def Policy.LacksDate (zone : Zone) (policy : Policy) (saved? : Option AllowanceTracker)
    (now : Instant) : Prop :=
  ∃ terms ∈ policy.allowance, terms.LacksDate zone now saved?

instance (zone : Zone) (policy : Policy) (saved? : Option AllowanceTracker) (now : Instant) :
    Decidable (policy.LacksDate zone saved? now) :=
  inferInstanceAs (Decidable (∃ terms ∈ policy.allowance, _))

theorem Policy.initialTracker?_of_lacksDate {zone : Zone} {policy : Policy}
    {saved? : Option AllowanceTracker} {now : Instant} (lacks : policy.LacksDate zone saved? now) :
    policy.allowance.mapM (fun terms => terms.initialTracker? zone now saved?) = none := by
  obtain ⟨terms, given, lacks⟩ := lacks
  simp [Option.mem_def.mp given, AllowancePolicy.initialTracker?_eq_none_iff.mpr lacks]

theorem Policy.initialTracker?_of_not_lacksDate {zone : Zone} {policy : Policy}
    {saved? : Option AllowanceTracker} {now : Instant}
    (dated : ¬ policy.LacksDate zone saved? now) :
    policy.allowance.mapM (fun terms => terms.initialTracker? zone now saved?) =
      some (policy.allowance.map fun terms => terms.initialTracker zone now saved?) := by
  cases given : policy.allowance with
  | none => rfl
  | some terms =>
      have there : ¬ terms.LacksDate zone now saved? := fun lacks => dated ⟨terms, given, lacks⟩
      simp [AllowancePolicy.initialTracker?_eq_some there]

namespace Engine

variable {zone : Zone} {policy : Policy} {saved : Option AllowanceTracker}
  {begin : Instant} {engine : Engine}

/-- `insertAll` without its checks for duplicate ids and for room. -/
def addAll (now : Instant) (policies : List RulePolicy) (group : RuleGroup) : RuleGroup :=
  policies.foldl (fun group policy => group.set policy.id (policy.toRule now)) group

/-- The rules pass the checks of `insertAll`: their ids are new and distinct, and there is room. -/
structure Addable (policies : List RulePolicy) (group : RuleGroup) : Prop where
  distinct : (policies.map (·.id)).Nodup
  absent : ∀ policy ∈ policies, group.get? policy.id = none
  room : group.size + policies.length ≤ group.capacity

theorem addable_cons_iff {first : RulePolicy} {rest : List RulePolicy} {group : RuleGroup}
    (now : Instant) :
    Addable (first :: rest) group ↔
      group.get? first.id = none ∧ group.size < group.capacity ∧
        Addable rest (group.set first.id (first.toRule now)) := by
  have grown (absent : group.get? first.id = none) :
      (group.set first.id (first.toRule now)).size = group.size + 1 :=
    Table.size_insert_of_none absent _
  constructor
  · rintro ⟨distinct, absent, room⟩
    obtain ⟨fresh, restDistinct⟩ := List.nodup_cons.mp distinct
    have new := absent first (.head _)
    simp only [List.length_cons] at room
    refine ⟨new, by omega, restDistinct, fun policy member => ?_, ?_⟩
    · have different : first.id ≠ policy.id := fun same =>
        fresh (List.mem_map.mpr ⟨policy, member, same.symm⟩)
      rw [RuleGroup.get?_set, if_neg different]
      exact absent policy (.tail _ member)
    · rw [grown new]
      change _ ≤ group.capacity
      omega
  · rintro ⟨new, _, restDistinct, restAbsent, restRoom⟩
    have different : ∀ policy ∈ rest, first.id ≠ policy.id := fun policy member same => by
      simpa [RuleGroup.get?_set, same] using restAbsent policy member
    rw [grown new] at restRoom
    change _ ≤ group.capacity at restRoom
    refine ⟨List.nodup_cons.mpr ⟨fun member => ?_, restDistinct⟩, fun policy member => ?_, ?_⟩
    · obtain ⟨policy, inRest, same⟩ := List.mem_map.mp member
      exact different policy inRest same.symm
    · rcases List.mem_cons.mp member with rfl | inRest
      · exact new
      · have absent := restAbsent policy inRest
        rwa [RuleGroup.get?_set, if_neg (different policy inRest)] at absent
    · simp only [List.length_cons]
      omega

theorem size_set_le {group : RuleGroup} {id : String} {rule : Rule}
    (absent : group.get? id = none) (room : group.size < group.capacity) :
    (group.set id rule).size ≤ (group.set id rule).capacity := by
  have size : (group.set id rule).size = group.size + 1 := Table.size_insert_of_none absent rule
  rw [size]
  exact room

/-- `insertAll` checks each rule against the group so far, and `Addable` all of them against the
group at the beginning. -/
theorem insertAll_eq_ok_iff {now : Instant} {policies : List RulePolicy}
    {group after : RuleGroup} (fits : group.size ≤ group.capacity) :
    insertAll now policies group = .ok after ↔
      Addable policies group ∧ after = addAll now policies group := by
  induction policies generalizing group with
  | nil =>
      have addable : Addable [] group := ⟨.nil, by simp, fits⟩
      simp [insertAll, addAll, addable, eq_comm]
  | cons first rest ih =>
      rw [addable_cons_iff now]
      rcases group.insert_cases first.id (first.toRule now) with
        ⟨_, present, refused⟩ | ⟨_, full, refused⟩ | ⟨absent, room, inserted⟩
      · simp [insertAll, refused, present]
      · simp [insertAll, refused, Nat.not_lt.mpr full]
      · have stepped : insertAll now (first :: rest) group =
            insertAll now rest (group.set first.id (first.toRule now)) := by
          simp only [insertAll, inserted]
          rfl
        rw [stepped, ih (size_set_le absent room)]
        simp [absent, room, addAll]

theorem get?_addAll {now : Instant} {policies : List RulePolicy}
    (distinct : (policies.map (·.id)).Nodup) (group : RuleGroup) (id : String) :
    (addAll now policies group).get? id =
      ((policies.find? fun policy => policy.id == id).map (·.toRule now)).or (group.get? id) := by
  induction policies generalizing group with
  | nil => rfl
  | cons first rest ih =>
      obtain ⟨fresh, restDistinct⟩ := List.nodup_cons.mp distinct
      have added := ih restDistinct (group.set first.id (first.toRule now))
      rw [RuleGroup.get?_set] at added
      change (addAll now rest _).get? id = _
      rw [added]
      by_cases same : first.id = id
      · -- Its id does not come back among the rest.
        have none : rest.find? (fun policy => policy.id == id) = none := by
          refine List.find?_eq_none.mpr fun policy member equal => fresh ?_
          exact List.mem_map.mpr ⟨policy, member, (eq_of_beq equal).trans same.symm⟩
        simp [none, same]
      · simp [same]

theorem size_addAll {now : Instant} {policies : List RulePolicy} {group : RuleGroup}
    (addable : Addable policies group) :
    (addAll now policies group).size = group.size + policies.length := by
  induction policies generalizing group with
  | nil => rfl
  | cons first rest ih =>
      obtain ⟨absent, _, restAddable⟩ := (addable_cons_iff now).mp addable
      have size : (group.set first.id (first.toRule now)).size = group.size + 1 :=
        Table.size_insert_of_none absent _
      change (addAll now rest _).size = _
      rw [ih restAddable, size, List.length_cons]
      omega

theorem capacity_addAll (now : Instant) (policies : List RulePolicy) (group : RuleGroup) :
    (addAll now policies group).capacity = group.capacity := by
  induction policies generalizing group with
  | nil => rfl
  | cons first rest ih => exact ih _

/-- The engine that `ofPolicy` gives for a policy with addable rules where no local date is missing.
-/
def initial (zone : Zone) (policy : Policy) (saved : Option AllowanceTracker)
    (begin : Instant) : Engine where
  rules := addAll begin policy.rules (.withCapacity policy.daemon.maxRules)
  allowance := policy.allowance.map fun terms => terms.initialTracker zone begin saved
  resetsDaily := (policy.allowance.map (·.resetDaily)).getD false
  blockPolicy := policy.daemon.blockPolicy

theorem capacity_initial :
    (initial zone policy saved begin).rules.capacity = policy.daemon.maxRules :=
  capacity_addAll ..

theorem insertAll_eq_ok (addable : Addable policy.rules (.withCapacity policy.daemon.maxRules)) :
    insertAll begin policy.rules (.withCapacity policy.daemon.maxRules) =
      .ok (addAll begin policy.rules (.withCapacity policy.daemon.maxRules)) :=
  (insertAll_eq_ok_iff (Nat.zero_le _)).mpr ⟨addable, rfl⟩

theorem addable_of_insertAll {rules : RuleGroup}
    (added : insertAll begin policy.rules (.withCapacity policy.daemon.maxRules) = .ok rules) :
    Addable policy.rules (.withCapacity policy.daemon.maxRules) :=
  ((insertAll_eq_ok_iff (Nat.zero_le _)).mp added).1

theorem ofPolicy_of_lacksDate
    (addable : Addable policy.rules (.withCapacity policy.daemon.maxRules))
    (lacks : policy.LacksDate zone saved begin) :
    ofPolicy zone policy saved begin = .error .noLocalDate := by
  simp [ofPolicy, insertAll_eq_ok addable, Policy.initialTracker?_of_lacksDate lacks, bind,
    Except.bind, Except.mapError, throw, throwThe, MonadExceptOf.throw]

theorem ofPolicy_of_not_lacksDate
    (addable : Addable policy.rules (.withCapacity policy.daemon.maxRules))
    (dated : ¬ policy.LacksDate zone saved begin) :
    ofPolicy zone policy saved begin = .ok (initial zone policy saved begin) := by
  simp [ofPolicy, insertAll_eq_ok addable, Policy.initialTracker?_of_not_lacksDate dated, bind,
    Except.bind, Except.mapError, initial, pure, Except.pure]

theorem ofPolicy_eq_ok_iff :
    ofPolicy zone policy saved begin = .ok engine ↔
      Addable policy.rules (.withCapacity policy.daemon.maxRules) ∧
        ¬ policy.LacksDate zone saved begin ∧ engine = initial zone policy saved begin := by
  constructor
  · intro built
    have addable : Addable policy.rules (.withCapacity policy.daemon.maxRules) := by
      cases added : insertAll begin policy.rules (.withCapacity policy.daemon.maxRules) with
      | error reason => simp [ofPolicy, added, bind, Except.bind, Except.mapError] at built
      | ok rules => exact addable_of_insertAll added
    have dated : ¬ policy.LacksDate zone saved begin := fun lacks => by
      rw [ofPolicy_of_lacksDate addable lacks] at built
      contradiction
    rw [ofPolicy_of_not_lacksDate addable dated] at built
    exact ⟨addable, dated, (Except.ok.inj built).symm⟩
  · rintro ⟨addable, dated, rfl⟩
    exact ofPolicy_of_not_lacksDate addable dated

theorem rule?_initial (distinct : (policy.rules.map (·.id)).Nodup) (id : String) :
    (initial zone policy saved begin).rule? id = (policy.rule? id).map (·.toRule begin) := by
  change (addAll _ _ _).get? id = _
  rw [get?_addAll distinct]
  exact Option.or_none

end Engine

/-- A plea rule, a countdown that starts at once, and two hours a day. -/
def Policy.evening : Policy where
  daemon := ⟨defaultTickInterval, none, .file, .any, 2⟩
  allowance := some ⟨⟨7200000, by decide⟩, true⟩
  rules :=
    [⟨"bedtime", "Bedtime", .always, .plea ⟨1800000, by decide⟩⟩,
      ⟨"focus", "Focus", .always, .timed ⟨5400000, by decide⟩ true⟩]

theorem Engine.addable_evening :
    Addable Policy.evening.rules (.withCapacity Policy.evening.daemon.maxRules) :=
  ⟨by decide, fun _ _ => rfl, by decide⟩

theorem Engine.ofPolicy_evening (zone : Zone) (begin : Instant) :
    ofPolicy zone .evening none begin = .ok (initial zone .evening none begin) :=
  ofPolicy_of_not_lacksDate addable_evening fun ⟨_, _, lacks⟩ => lacks.not_none rfl

end Curfew
