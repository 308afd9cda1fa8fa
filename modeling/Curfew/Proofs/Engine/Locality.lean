import Curfew.Proofs.Engine.WellFormed

namespace Curfew.Engine

/-! Operations that name a rule.  Such an operation sees the entry of its id and whether there
is room, and it changes that entry only, so that operations on two ids can change places. -/

/-- The id of the rule without which the operation is refused. -/
def Operation.existing? : Operation → Option String
  | .plead id _ | .rearm id | .start id _ | .remove id => some id
  | _ => none

/-- The id that an operation names. -/
def Operation.target? : Operation → Option String
  | .insert policy _ => some policy.id
  | operation => operation.existing?

/-- The kind of protector that an operation is for. -/
def Operation.expected? : Operation → Option ProtectorKind
  | .plead .. | .rearm _ => some .plea
  | .start .. => some .timed
  | _ => none

/-- The answer of an operation on a protector of its kind. -/
def Operation.reply : Operation → Protector → Answer
  | .plead _ now, .plea plea => .plea (plea.plead now).2
  | .rearm _, .plea plea => .rearm plea.rearm.2
  | _, _ => .started

/-- Why an operation that names a rule is refused. -/
inductive Refuses (engine : Engine) : Operation → RuleError → Prop
  | duplicate {policy now rule} (present : engine.rule? policy.id = some rule) :
      Refuses engine (.insert policy now) (.duplicate policy.id)
  | groupFull {policy now} (absent : engine.rule? policy.id = none)
      (full : engine.rules.capacity ≤ engine.rules.size) :
      Refuses engine (.insert policy now) (.groupFull engine.rules.capacity)
  | notFound {operation id} (named : operation.existing? = some id)
      (absent : engine.rule? id = none) :
      Refuses engine operation (.notFound id)
  | wrongKind {operation id rule expected} (named : operation.existing? = some id)
      (wanted : operation.expected? = some expected) (present : engine.rule? id = some rule)
      (different : rule.protector.kind ≠ expected) :
      Refuses engine operation (.wrongKind id rule.protector.kind expected)

variable {zone : Zone} {engine left right : Engine} {operation second : Operation}
  {id other : String}

theorem tick?_of_target? (named : operation.target? = some id) : operation.tick? = none := by
  cases operation <;> first | rfl | contradiction

theorem cases_of_target? (named : operation.target? = some id) :
    (∃ policy now, operation = .insert policy now ∧ policy.id = id) ∨
      operation = .remove id ∨
      operation.existing? = some id ∧ ∃ expected, operation.expected? = some expected := by
  cases operation with
  | plead target now => exact .inr (.inr ⟨named, _, rfl⟩)
  | rearm target => exact .inr (.inr ⟨named, _, rfl⟩)
  | start target now => exact .inr (.inr ⟨named, _, rfl⟩)
  | insert policy now => exact .inl ⟨policy, now, rfl, Option.some.inj named⟩
  | remove target => exact .inr (.inl (congrArg _ (Option.some.inj named)))
  | _ => contradiction

theorem answer_of_expected? (zone : Zone) (engine : Engine) {expected : ProtectorKind}
    (named : operation.existing? = some id) (wanted : operation.expected? = some expected) :
    engine.answer zone operation =
      match engine.rule? id with
      | none => .error (.refused (.notFound id))
      | some rule =>
          if rule.protector.kind = expected then .ok (operation.reply rule.protector)
          else .error (.refused (.wrongKind id rule.protector.kind expected)) := by
  cases operation <;> cases named <;> cases wanted
  all_goals
    simp only [answer, perform, plead, rearm, start, act]
    rcases engine.rule? id with _ | ⟨activator, timed | plea⟩ <;> rfl

theorem answer_insert (zone : Zone) (engine : Engine) (policy : RulePolicy) (now : Instant) :
    engine.answer zone (.insert policy now) =
      match engine.rule? policy.id with
      | some _ => .error (.refused (.duplicate policy.id))
      | none =>
          if engine.rules.capacity ≤ engine.rules.size then
            .error (.refused (.groupFull engine.rules.capacity))
          else .ok .inserted := by
  rw [answer_insert_eq]
  change _ = match engine.rules.get? policy.id with | some _ => _ | none => _
  rcases engine.rules.insert_cases policy.id (policy.toRule now) with
    ⟨_, present, refused⟩ | ⟨absent, full, refused⟩ | ⟨absent, room, inserted⟩
  · rw [refused, present]
    rfl
  · rw [refused, absent, if_pos full]
    rfl
  · rw [inserted, absent, if_neg (Nat.not_le.mpr room)]
    rfl

/-- The answer depends only on the entry of the id and on whether there is room. -/
theorem answer_congr (named : operation.target? = some id)
    (entry : left.rule? id = right.rule? id)
    (capacity : left.rules.capacity = right.rules.capacity)
    (room : left.rules.capacity ≤ left.rules.size ↔ right.rules.capacity ≤ right.rules.size) :
    left.answer zone operation = right.answer zone operation := by
  rcases cases_of_target? named with ⟨policy, now, rfl, rfl⟩ | rfl | ⟨needed, expected, wanted⟩
  · rw [← capacity] at room
    rw [answer_insert, answer_insert, entry, ← capacity]
    simp only [room]
  · rw [answer_remove, answer_remove, entry]
  · rw [answer_of_expected? _ _ needed wanted, answer_of_expected? _ _ needed wanted, entry]

theorem refuses_of_answer (named : operation.target? = some id) {failure : Failure}
    (refused : engine.answer zone operation = .error failure) :
    ∃ error, failure = .refused error ∧ engine.Refuses operation error := by
  rcases cases_of_target? named with ⟨policy, now, rfl, rfl⟩ | rfl | ⟨needed, expected, wanted⟩
  · rw [answer_insert] at refused
    split at refused
    · rename_i rule present
      cases refused
      exact ⟨_, rfl, .duplicate present⟩
    · rename_i absent
      split at refused
      · rename_i full
        cases refused
        exact ⟨_, rfl, .groupFull absent full⟩
      · contradiction
  · rw [answer_remove] at refused
    split at refused
    · rename_i absent
      cases refused
      exact ⟨_, rfl, .notFound rfl absent⟩
    · contradiction
  · rw [answer_of_expected? _ _ needed wanted] at refused
    split at refused
    · rename_i absent
      cases refused
      exact ⟨_, rfl, .notFound needed absent⟩
    · rename_i rule present
      split at refused
      · contradiction
      · rename_i different
        cases refused
        exact ⟨_, rfl, .wrongKind needed wanted present different⟩

theorem answer_of_refuses {error : RuleError} (refuses : engine.Refuses operation error) :
    engine.answer zone operation = .error (.refused error) := by
  cases refuses with
  | duplicate present => rw [answer_insert, present]
  | groupFull absent full => rw [answer_insert, absent, if_pos full]
  | @notFound _ id named absent =>
      have target : operation.target? = some id := by
        cases operation <;> first | exact named | contradiction
      rcases cases_of_target? target with ⟨_, _, rfl, _⟩ | rfl | ⟨_, expected, wanted⟩
      · contradiction
      · rw [answer_remove, absent]
      · rw [answer_of_expected? _ _ named wanted, absent]
  | wrongKind named wanted present different =>
      rw [answer_of_expected? _ _ named wanted, present]
      exact if_neg different

theorem answer_eq_error_iff (named : operation.target? = some id) {failure : Failure} :
    engine.answer zone operation = .error failure ↔
      ∃ error, failure = .refused error ∧ engine.Refuses operation error := by
  refine ⟨refuses_of_answer named, ?_⟩
  rintro ⟨error, rfl, refuses⟩
  exact answer_of_refuses refuses

theorem ruleAfter_of_target?_ne (named : operation.target? = some id) (different : id ≠ other)
    (rule : Option Rule) (answer : Except Failure Answer) :
    ruleAfter other rule (operation, answer) = rule := by
  cases operation <;> cases named <;> cases answer <;>
    simp [ruleAfter, Operation.effect, different]

theorem rule?_next_of_ne (named : operation.target? = some id) (different : id ≠ other) :
    (engine.next zone operation).rule? other = engine.rule? other := by
  rw [rule?_next, ruleAfter_of_target?_ne named different]

theorem size_next_le (zone : Zone) (engine : Engine) (named : operation.target? = some id) :
    (engine.next zone operation).rules.size ≤ engine.rules.size + 1 := by
  cases operation with
  | plead | rearm | start => exact Nat.le_succ_of_le (attempted_next zone engine rfl).size.le
  | insert policy now =>
      rw [next_insert]
      rcases engine.rules.insert_cases policy.id (policy.toRule now) with
        ⟨_, _, refused⟩ | ⟨_, _, refused⟩ | ⟨absent, _, inserted⟩
      · exact refused ▸ Nat.le_succ _
      · exact refused ▸ Nat.le_succ _
      · exact inserted ▸ (Table.size_insert_of_none absent _).le
  | remove target =>
      rw [next_remove]
      exact Nat.le_succ_of_le (Table.size_erase_le ..)
  | _ => contradiction

/-- A refused operation leaves the engine that it met, though each of them returns an engine beside
its error. -/
theorem next_of_refuses {error : RuleError} (refuses : engine.Refuses operation error) :
    engine.next zone operation = engine := by
  cases refuses with
  | @duplicate policy now rule present =>
      rcases engine.rules.insert_cases policy.id (policy.toRule now) with
        ⟨_, _, refused⟩ | ⟨absent, _, _⟩ | ⟨absent, _, _⟩
      · rw [next_insert, refused]
      · cases absent.symm.trans present
      · cases absent.symm.trans present
  | @groupFull policy now absent full =>
      rcases engine.rules.insert_cases policy.id (policy.toRule now) with
        ⟨_, present, _⟩ | ⟨_, _, refused⟩ | ⟨_, room, _⟩
      · cases absent.symm.trans present
      · rw [next_insert, refused]
      · exact absurd full (Nat.not_le.mpr room)
  | @notFound _ id named absent =>
      cases operation <;> cases named
      · simp [next, perform, plead, act, absent]
      · simp [next, perform, rearm, act, absent]
      · simp [next, perform, start, act, absent]
      · rw [next_remove, RuleGroup.remove_of_none absent]
  | @wrongKind _ id rule expected named wanted present different =>
      have unchanged {α : Type} (change : Protector → Option (Protector × α))
          (undefined : change rule.protector = none) :
          (engine.act expected change id).1 = engine := by
        simp [act, present, undefined]
      obtain ⟨activator, timed | plea⟩ := rule
      · cases operation <;> cases named <;> cases wanted
        · exact unchanged (Protector.onPlea (·.plead _)) rfl
        · exact unchanged (Protector.onPlea (·.rearm)) rfl
        · exact absurd rfl different
      · cases operation <;> cases named <;> cases wanted
        · exact absurd rfl different
        · exact absurd rfl different
        · exact unchanged (Protector.onTimed fun timed => (timed.start _, ())) rfl

theorem answer_next (named : operation.target? = some id)
    (secondNamed : second.target? = some other) (different : id ≠ other)
    (room : engine.rules.size + 2 ≤ engine.rules.capacity) :
    (engine.next zone second).answer zone operation = engine.answer zone operation := by
  have capacity := (next_settings zone engine second).2.2
  have size := size_next_le zone engine secondNamed
  refine answer_congr named (rule?_next_of_ne secondNamed different.symm) capacity ?_
  rw [capacity]
  omega

theorem next_next_eq (zone : Zone) (engine : Engine) (named : operation.target? = some id)
    (secondNamed : second.target? = some other) :
    ∃ table, (engine.next zone operation).next zone second =
      { engine with rules := { engine.rules with rules := table } } := by
  obtain ⟨table, first⟩ := next_of_no_tick zone engine (tick?_of_target? named)
  obtain ⟨last, both⟩ :=
    next_of_no_tick zone (engine.next zone operation) (tick?_of_target? secondNamed)
  rw [both, first]
  exact ⟨last, rfl⟩

theorem next_next_comm (named : operation.target? = some id)
    (secondNamed : second.target? = some other) (different : id ≠ other)
    (room : engine.rules.size + 2 ≤ engine.rules.capacity) :
    (engine.next zone operation).next zone second =
      (engine.next zone second).next zone operation := by
  obtain ⟨table, left⟩ := next_next_eq zone engine named secondNamed
  obtain ⟨table', right⟩ := next_next_eq zone engine secondNamed named
  have same : ∀ key, ((engine.next zone operation).next zone second).rule? key =
      ((engine.next zone second).next zone operation).rule? key := by
    intro key
    simp only [rule?_next, answer_next named secondNamed different room,
      answer_next secondNamed named different.symm room]
    by_cases here : id = key
    · have elsewhere : other ≠ key := fun there => different (here.trans there.symm)
      simp only [ruleAfter_of_target?_ne secondNamed elsewhere]
    · simp only [ruleAfter_of_target?_ne named here]
  rw [left, right] at same ⊢
  have tables : table = table' := Table.ext_get? same
  rw [tables]

/-- An operation that names a rule fails exactly for the reasons in `Refuses`, and then leaves the
engine as it was.  If it succeeds it changes the entry of that id and nothing else.  Two such
operations with different ids leave the same engine and give the same answers in either order, while
there is room for two more rules. -/
theorem operations_local (zone : Zone) (engine : Engine) {operation : Operation} {id : String}
    (named : operation.target? = some id) :
    (∀ failure, engine.answer zone operation = .error failure ↔
        ∃ error, failure = .refused error ∧ engine.Refuses operation error) ∧
      (∀ failure, engine.answer zone operation = .error failure →
        engine.next zone operation = engine) ∧
      (∀ other, id ≠ other →
        (engine.next zone operation).rule? other = engine.rule? other) ∧
      ((engine.next zone operation).allowance = engine.allowance ∧
        (engine.next zone operation).resetsDaily = engine.resetsDaily ∧
        (engine.next zone operation).blockPolicy = engine.blockPolicy ∧
        (engine.next zone operation).rules.capacity = engine.rules.capacity) ∧
      ∀ second other, second.target? = some other → id ≠ other →
        engine.rules.size + 2 ≤ engine.rules.capacity →
          (engine.run zone [operation, second]).1 = (engine.run zone [second, operation]).1 ∧
          (engine.run zone [operation, second]).2 =
            (engine.run zone [second, operation]).2.reverse := by
  refine ⟨fun _ => answer_eq_error_iff named, fun failure refused => ?_,
    fun _ => rule?_next_of_ne named, ?_, ?_⟩
  · obtain ⟨error, _, refuses⟩ := refuses_of_answer named refused
    exact next_of_refuses refuses
  · obtain ⟨table, after⟩ := next_of_no_tick zone engine (tick?_of_target? named)
    rw [after]
    exact ⟨rfl, rfl, rfl, rfl⟩
  · intro second other secondNamed different room
    simp only [run_cons]
    refine ⟨next_next_comm named secondNamed different room, ?_⟩
    rw [answer_next named secondNamed different room,
      answer_next secondNamed named different.symm room]
    rfl

/-- The evening with room for two more rules. -/
def roomyEvening : Engine :=
  initial .utc { Policy.evening with daemon := { Policy.evening.daemon with maxRules := 4 } }
    none .epoch

/-- A `plead` and an `insert` change places. -/
theorem roomyEvening_comm :
    (roomyEvening.run .utc
        [.plead "bedtime" ⟨60000, by decide, by decide⟩,
          .insert ⟨"homework", "Homework", .always, .plea ⟨600000, by decide⟩⟩ .epoch]).1 =
      (roomyEvening.run .utc
        [.insert ⟨"homework", "Homework", .always, .plea ⟨600000, by decide⟩⟩ .epoch,
          .plead "bedtime" ⟨60000, by decide, by decide⟩]).1 := by
  obtain ⟨_, _, _, _, comm⟩ := @operations_local .utc roomyEvening
    (.plead "bedtime" ⟨60000, by decide, by decide⟩) "bedtime" rfl
  exact (comm _ "homework" rfl (by decide) (by decide)).1

end Curfew.Engine
