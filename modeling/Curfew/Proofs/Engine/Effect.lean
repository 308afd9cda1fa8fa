import Curfew.Engine.Operation
import Curfew.Proofs.Table
import Mathlib.Data.List.Induction

namespace Curfew

/-! What one operation does, seen from a single rule and from the allowance.  A run is a
fold of these effects, so that what holds of every run is shown of one operation. -/

namespace Protector

def mapPlea (f : PleaProtector → PleaProtector) : Protector → Protector
  | .plea protector => .plea (f protector)
  | .timed protector => .timed protector

def mapTimed (f : TimedProtector → TimedProtector) : Protector → Protector
  | .timed protector => .timed (f protector)
  | .plea protector => .plea protector

def restored (protector : Protector) (state : SavedState) : Protector :=
  match state.apply protector with
  | .ok restored => restored
  | .error _ => protector

end Protector

namespace RuleGroup

/-- `insert` refuses a rule and leaves the group, or adds it under a new id. -/
theorem insert_cases (group : RuleGroup) (id : String) (rule : Rule) :
    (∃ old, group.get? id = some old ∧ group.insert id rule = (group, .error (.duplicate id))) ∨
      (group.get? id = none ∧ group.capacity ≤ group.size ∧
        group.insert id rule = (group, .error (.groupFull group.capacity))) ∨
      (group.get? id = none ∧ group.size < group.capacity ∧
        group.insert id rule =
          ({ group with rules := group.rules.insert id rule }, .ok ())) := by
  unfold insert get? Table.contains
  cases found : group.rules.get? id with
  | some old => exact .inl ⟨old, rfl, by simp⟩
  | none =>
      by_cases full : group.capacity ≤ group.size
      · exact .inr (.inl ⟨rfl, full, by simp [full]⟩)
      · exact .inr (.inr ⟨rfl, Nat.lt_of_not_le full, by simp [full]⟩)
theorem remove_of_none {group : RuleGroup} {id : String} (absent : group.get? id = none) :
    (group.remove id).1 = group := by
  have unchanged : group.rules.erase id = group.rules := by
    refine Table.ext_get? fun other => ?_
    rw [Table.get?_erase]
    split
    · rename_i same
      rw [← same]
      exact absent.symm
    · rfl
  exact congrArg (RuleGroup.mk · group.capacity) unchanged

end RuleGroup

namespace Engine

variable {zone : Zone} {engine : Engine} {operation : Operation} {id : String}

/-- What an operation makes of the protector of a rule that is there before and after it. -/
def Operation.effect (id : String) (protector : Protector) : Operation → Protector
  | .synchronize now => protector.synchronize now
  | .plead target now =>
      if target = id then protector.mapPlea fun plea => (plea.plead now).1 else protector
  | .rearm target => if target = id then protector.mapPlea fun plea => plea.rearm.1 else protector
  | .start target now => if target = id then protector.mapTimed (·.start now) else protector
  | .restore states => ((states.get? id).map protector.restored).getD protector
  | .decision .. | .decisionAt _ | .insert .. | .remove _ | .save => protector

/-- The engine that an operation leaves, also where it fails. -/
def next (zone : Zone) (engine : Engine) (operation : Operation) : Engine :=
  (engine.perform zone operation).1

def answer (zone : Zone) (engine : Engine) (operation : Operation) : Except Failure Answer :=
  (engine.perform zone operation).2

def trace (zone : Zone) (engine : Engine) (operations : List Operation) :
    List (Operation × Except Failure Answer) :=
  operations.zip (engine.run zone operations).2

/-- The id of the rule whose protector `plead`, `rearm` and `start` change. -/
def Operation.actsOn? : Operation → Option String
  | .plead id _ | .rearm id | .start id _ => some id
  | _ => none

def Operation.tick? : Operation → Option Instant
  | .synchronize now => some now
  | _ => none

theorem Operation.eq_synchronize_of_tick? {operation : Operation} {now : Instant}
    (tick : operation.tick? = some now) : operation = .synchronize now := by
  cases operation <;> simp_all [tick?]

def ticksOf (operations : List Operation) : List Instant :=
  operations.filterMap Operation.tick?

theorem ticksOf_concat (before : List Operation) (operation : Operation) :
    ticksOf (before ++ [operation]) = ticksOf before ++ operation.tick?.toList := by
  cases operation <;> simp [ticksOf, Operation.tick?]

theorem run_cons (zone : Zone) (engine : Engine) (operation : Operation)
    (rest : List Operation) :
    engine.run zone (operation :: rest) =
      (((engine.next zone operation).run zone rest).1,
        engine.answer zone operation :: ((engine.next zone operation).run zone rest).2) := rfl

theorem run_append (zone : Zone) (engine : Engine) (before after : List Operation) :
    engine.run zone (before ++ after) =
      (((engine.run zone before).1.run zone after).1,
        (engine.run zone before).2 ++ ((engine.run zone before).1.run zone after).2) := by
  induction before generalizing engine with
  | nil => rfl
  | cons operation rest ih => simp only [List.cons_append, run_cons, ih]

theorem run_concat (zone : Zone) (engine : Engine) (before : List Operation)
    (operation : Operation) :
    engine.run zone (before ++ [operation]) =
      ((engine.run zone before).1.next zone operation,
        (engine.run zone before).2 ++ [(engine.run zone before).1.answer zone operation]) := by
  rw [run_append, run_cons]
  rfl

theorem run_length (zone : Zone) (engine : Engine) (operations : List Operation) :
    (engine.run zone operations).2.length = operations.length := by
  induction operations generalizing engine with
  | nil => rfl
  | cons operation rest ih => simp only [run_cons, List.length_cons, ih]

theorem trace_concat (zone : Zone) (engine : Engine) (before : List Operation)
    (operation : Operation) :
    engine.trace zone (before ++ [operation]) =
      engine.trace zone before ++
        [(operation, (engine.run zone before).1.answer zone operation)] := by
  rw [trace, run_concat, List.zip_append (run_length ..).symm, trace]
  rfl

theorem rule?_setProtector (engine : Engine) (target : String) (rule : Rule)
    (protector : Protector) (id : String) :
    (engine.setProtector target rule protector).rule? id =
      if target = id then some { rule with protector } else engine.rule? id :=
  Table.get?_insert ..

/-- The part of the answer of `synchronize` that is about the allowance. -/
def allowanceEvents (zone : Zone) (engine : Engine) (now : Instant) :
    Except Failure (List Event) :=
  match engine.allowance with
  | none => .ok []
  | some tracker => (synchronizeTracker zone engine.resetsDaily tracker now).2

theorem synchronize_eq (zone : Zone) (engine : Engine) (now : Instant) :
    engine.synchronize zone now =
      ({ engine with
          rules := engine.rules.synchronize now
          allowance := engine.allowance.map fun tracker =>
            (synchronizeTracker zone engine.resetsDaily tracker now).1 },
        (engine.allowanceEvents zone now).map ((engine.lifted now).map .lifted ++ ·)) := by
  unfold synchronize allowanceEvents
  cases held : engine.allowance with
  | none => simp [Except.map]
  | some tracker => rfl

theorem synchronize_eq_ok_iff {now : Instant} {events : List Event} :
    (engine.synchronize zone now).2 = .ok events ↔
      ∃ told, engine.allowanceEvents zone now = .ok told ∧
        events = (engine.lifted now).map .lifted ++ told := by
  rw [synchronize_eq]
  cases engine.allowanceEvents zone now <;> simp [Except.map, eq_comm]

theorem rule?_synchronize (zone : Zone) (engine : Engine) (now : Instant) (id : String) :
    (engine.synchronize zone now).1.rule? id =
      (engine.rule? id).map (·.synchronize now) := by
  rw [synchronize_eq]
  exact Table.get?_map ..

theorem rule?_restore (engine : Engine) (states : SavedStates) (id : String) :
    (engine.restore states).1.rule? id =
      (engine.rule? id).map fun rule =>
        { rule with protector :=
            ((states.get? id).map rule.protector.restored).getD rule.protector } := by
  have restored : (engine.restore states).1.rule? id =
      (engine.rule? id).map fun rule => (restoreRule? states id rule).getD rule :=
    Table.get?_map ..
  rw [restored]
  congr 1
  funext rule
  cases found : states.get? id with
  | none => simp [restoreRule?, found]
  | some state =>
      cases applied : state.apply rule.protector <;>
        simp [restoreRule?, found, applied, Protector.restored]

/-- What an operation with its answer makes of the rule under an id. -/
def ruleAfter (id : String) (rule : Option Rule) :
    Operation × Except Failure Answer → Option Rule
  | (.insert policy now, .ok _) => if policy.id = id then some (policy.toRule now) else rule
  | (.remove target, .ok _) => if target = id then none else rule
  | (operation, _) =>
      rule.map fun rule => { rule with protector := operation.effect id rule.protector }

theorem map_unchanged (rule : Option Rule) :
    (rule.map fun rule : Rule => { rule with protector := rule.protector }) = rule := by
  cases rule <;> rfl

/-- The engine after an attempt to change the protector of one rule by `f`: the attempt was refused,
which it is only where `f` changes nothing, or it was made. -/
def Attempted (engine : Engine) (target : String) (f : Protector → Protector)
    (after : Engine) : Prop :=
  (after = engine ∧ ∀ rule, engine.rule? target = some rule → f rule.protector = rule.protector) ∨
    ∃ rule, engine.rule? target = some rule ∧
      after = engine.setProtector target rule (f rule.protector)

theorem attempted_act {α : Type} {target : String} {f : Protector → Protector}
    {change : Protector → Option (Protector × α)} (expected : ProtectorKind)
    (does : ∀ protector, ((change protector).map Prod.fst).getD protector = f protector) :
    engine.Attempted target f (engine.act expected change target).1 := by
  unfold act
  cases found : engine.rule? target with
  | none => exact .inl ⟨rfl, fun rule present => by cases found.symm.trans present⟩
  | some rule =>
      have changed := does rule.protector
      cases made : change rule.protector with
      | none =>
          simp only [made, Option.map_none, Option.getD_none] at changed ⊢
          refine .inl ⟨rfl, fun other present => ?_⟩
          cases found.symm.trans present
          exact changed.symm
      | some result =>
          simp only [made, Option.map_some, Option.getD_some] at changed ⊢
          exact .inr ⟨rule, found, by rw [changed]⟩

theorem attempted_next (zone : Zone) (engine : Engine) {target : String}
    (acts : operation.actsOn? = some target) :
    engine.Attempted target (operation.effect target) (engine.next zone operation) := by
  have ofAct {α : Type} (expected : ProtectorKind) (change : Protector → Option (Protector × α))
      (same : engine.next zone operation = (engine.act expected change target).1)
      (does : ∀ protector,
        ((change protector).map Prod.fst).getD protector = operation.effect target protector) :
      engine.Attempted target (operation.effect target) (engine.next zone operation) :=
    same ▸ attempted_act expected does
  cases operation with
  | plead id now =>
      cases acts
      refine ofAct .plea (Protector.onPlea (·.plead now)) rfl fun protector => ?_
      cases protector <;> simp [Operation.effect, Protector.onPlea, Protector.mapPlea]
  | rearm id =>
      cases acts
      refine ofAct .plea (Protector.onPlea (·.rearm)) rfl fun protector => ?_
      cases protector <;> simp [Operation.effect, Protector.onPlea, Protector.mapPlea]
  | start id now =>
      cases acts
      refine ofAct .timed (Protector.onTimed fun timed => (timed.start now, ())) rfl
        fun protector => ?_
      cases protector <;> simp [Operation.effect, Protector.onTimed, Protector.mapTimed]
  | _ => contradiction

theorem effect_eq_ite {target : String} (acts : operation.actsOn? = some target) (id : String)
    (protector : Protector) :
    operation.effect id protector =
      if target = id then operation.effect target protector else protector := by
  cases operation <;> cases acts
  all_goals
    simp only [Operation.effect]
    split <;> simp_all

theorem Attempted.rule? {target : String} {f : Protector → Protector} {after : Engine}
    (attempted : engine.Attempted target f after) (id : String) :
    after.rule? id =
      (engine.rule? id).map fun rule =>
        { rule with protector := if target = id then f rule.protector else rule.protector } := by
  by_cases same : target = id
  · subst same
    simp only [if_true]
    rcases attempted with ⟨rfl, unchanged⟩ | ⟨rule, found, rfl⟩
    · cases found : after.rule? target with
      | none => rfl
      | some rule => simp [unchanged rule found]
    · simp [rule?_setProtector, found]
  · simp only [if_neg same, map_unchanged]
    rcases attempted with ⟨rfl, _⟩ | ⟨rule, _, rfl⟩
    · rfl
    · rw [rule?_setProtector, if_neg same]

theorem rule?_next_of_actsOn? {target : String} (acts : operation.actsOn? = some target)
    (id : String) :
    (engine.next zone operation).rule? id =
      (engine.rule? id).map fun rule =>
        { rule with protector := operation.effect id rule.protector } := by
  rw [(attempted_next zone engine acts).rule? id]
  refine congrArg (Option.map · _) (funext fun rule => ?_)
  rw [effect_eq_ite acts id]

theorem next_insert (zone : Zone) (engine : Engine) (policy : RulePolicy) (now : Instant) :
    engine.next zone (.insert policy now) =
      { engine with rules := (engine.rules.insert policy.id (policy.toRule now)).1 } := rfl

theorem answer_insert_eq (zone : Zone) (engine : Engine) (policy : RulePolicy) (now : Instant) :
    engine.answer zone (.insert policy now) =
      ((engine.rules.insert policy.id (policy.toRule now)).2.mapError Failure.refused).map
        fun _ => .inserted := rfl

theorem next_remove (zone : Zone) (engine : Engine) (target : String) :
    engine.next zone (.remove target) =
      { engine with rules := (engine.rules.remove target).1 } := by
  change (engine.remove target).1 = _
  unfold remove RuleGroup.remove
  split <;> simp_all

theorem answer_remove (zone : Zone) (engine : Engine) (target : String) :
    engine.answer zone (.remove target) =
      match engine.rule? target with
      | none => .error (.refused (.notFound target))
      | some rule => .ok (.removed rule) := by
  change (engine.remove target).2.map _ = _
  unfold remove RuleGroup.remove rule? RuleGroup.get?
  cases engine.rules.rules.get? target <;> rfl

theorem rule?_next_insert (zone : Zone) (engine : Engine) (policy : RulePolicy) (now : Instant)
    (id : String) :
    (engine.next zone (.insert policy now)).rule? id =
      ruleAfter id (engine.rule? id)
        (.insert policy now, engine.answer zone (.insert policy now)) := by
  rw [next_insert, answer_insert_eq]
  rcases engine.rules.insert_cases policy.id (policy.toRule now) with
    ⟨_, _, refused⟩ | ⟨_, _, refused⟩ | ⟨_, _, inserted⟩
  · rw [refused]
    exact (map_unchanged _).symm
  · rw [refused]
    exact (map_unchanged _).symm
  · rw [inserted]
    exact Table.get?_insert engine.rules.rules policy.id (policy.toRule now) id

theorem rule?_next_remove (zone : Zone) (engine : Engine) (target : String) (id : String) :
    (engine.next zone (.remove target)).rule? id =
      ruleAfter id (engine.rule? id) (.remove target, engine.answer zone (.remove target)) := by
  rw [next_remove, answer_remove]
  cases found : engine.rule? target with
  | none =>
      rw [RuleGroup.remove_of_none found]
      exact (map_unchanged _).symm
  | some rule => exact Table.get?_erase engine.rules.rules target id

/-- An operation reaches the rule under an id in the way of `ruleAfter` and in no other. -/
theorem rule?_next (zone : Zone) (engine : Engine) (operation : Operation) (id : String) :
    (engine.next zone operation).rule? id =
      ruleAfter id (engine.rule? id) (operation, engine.answer zone operation) := by
  cases operation with
  | synchronize now => exact rule?_synchronize ..
  | decision day time => exact (map_unchanged _).symm
  | decisionAt now => exact (map_unchanged _).symm
  | plead target now | rearm target | start target now => exact rule?_next_of_actsOn? rfl id
  | insert policy now => exact rule?_next_insert ..
  | remove target => exact rule?_next_remove ..
  | save => exact (map_unchanged _).symm
  | restore states => exact rule?_restore ..

theorem rule?_run (zone : Zone) (engine : Engine) (operations : List Operation) (id : String) :
    (engine.run zone operations).1.rule? id =
      (engine.trace zone operations).foldl (ruleAfter id) (engine.rule? id) := by
  -- The last operation meets the engine that all others have left behind.
  induction operations using List.reverseRecOn with
  | nil => rfl
  | append_singleton before operation ih =>
      rw [run_concat, rule?_next, trace_concat, List.foldl_append, ih]
      rfl

/-- Operations other than `synchronize` change nothing but the table of rules. -/
theorem next_of_no_tick (zone : Zone) (engine : Engine) (silent : operation.tick? = none) :
    ∃ table, engine.next zone operation =
      { engine with rules := { engine.rules with rules := table } } := by
  have ofAttempt : ∀ {target f after}, engine.Attempted target f after →
      ∃ table, after = { engine with rules := { engine.rules with rules := table } } := by
    rintro target f after (⟨rfl, _⟩ | ⟨rule, _, rfl⟩)
    · exact ⟨after.rules.rules, rfl⟩
    · exact ⟨_, rfl⟩
  cases operation with
  | synchronize now => contradiction
  | decision day time => exact ⟨_, rfl⟩
  | decisionAt now => exact ⟨_, rfl⟩
  | plead target now | rearm target | start target now =>
      exact ofAttempt (attempted_next zone engine rfl)
  | insert policy now =>
      rw [next_insert]
      rcases engine.rules.insert_cases policy.id (policy.toRule now) with
        ⟨_, _, refused⟩ | ⟨_, _, refused⟩ | ⟨_, _, inserted⟩
      · exact ⟨_, by rw [refused]⟩
      · exact ⟨_, by rw [refused]⟩
      · exact ⟨_, by rw [inserted]⟩
  | remove target => exact ⟨_, next_remove zone engine target⟩
  | save => exact ⟨_, rfl⟩
  | restore states => exact ⟨_, rfl⟩

theorem next_synchronize (zone : Zone) (engine : Engine) (now : Instant) :
    engine.next zone (.synchronize now) = (engine.synchronize zone now).1 := rfl

theorem synchronize_allowance (zone : Zone) (engine : Engine) (now : Instant) :
    (engine.synchronize zone now).1.allowance =
      engine.allowance.map fun tracker =>
        (synchronizeTracker zone engine.resetsDaily tracker now).1 := by
  rw [synchronize_eq]

theorem rules_synchronize (zone : Zone) (engine : Engine) (now : Instant) :
    (engine.synchronize zone now).1.rules = engine.rules.synchronize now := by
  rw [synchronize_eq]

theorem synchronize_settings (zone : Zone) (engine : Engine) (now : Instant) :
    (engine.synchronize zone now).1.resetsDaily = engine.resetsDaily ∧
      (engine.synchronize zone now).1.blockPolicy = engine.blockPolicy ∧
      (engine.synchronize zone now).1.rules.capacity = engine.rules.capacity := by
  rw [synchronize_eq]
  exact ⟨rfl, rfl, rfl⟩

theorem next_settings (zone : Zone) (engine : Engine) (operation : Operation) :
    (engine.next zone operation).resetsDaily = engine.resetsDaily ∧
      (engine.next zone operation).blockPolicy = engine.blockPolicy ∧
      (engine.next zone operation).rules.capacity = engine.rules.capacity := by
  cases tick : operation.tick? with
  | none =>
      obtain ⟨table, after⟩ := next_of_no_tick zone engine tick
      rw [after]
      exact ⟨rfl, rfl, rfl⟩
  | some now =>
      obtain rfl := Operation.eq_synchronize_of_tick? tick
      exact synchronize_settings ..

theorem run_settings (zone : Zone) (engine : Engine) (operations : List Operation) :
    (engine.run zone operations).1.resetsDaily = engine.resetsDaily ∧
      (engine.run zone operations).1.blockPolicy = engine.blockPolicy ∧
      (engine.run zone operations).1.rules.capacity = engine.rules.capacity := by
  induction operations using List.reverseRecOn with
  | nil => exact ⟨rfl, rfl, rfl⟩
  | append_singleton before operation ih =>
      rw [run_concat]
      obtain ⟨daily, block, capacity⟩ := next_settings zone (engine.run zone before).1 operation
      exact ⟨daily.trans ih.1, block.trans ih.2.1, capacity.trans ih.2.2⟩

end Engine

end Curfew
