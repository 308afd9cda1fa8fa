import Curfew.Scheduler
import Mathlib.Data.List.Nodup

namespace Curfew.Scheduler

/-! What every scheduler keeps to.  The ids of its timers are distinct and have been counted,
and no timer is overdue: the clock never passes a deadline without stopping there. -/

structure Sound (scheduler : Scheduler) : Prop where
  distinct : (scheduler.timers.map Prod.fst).Nodup
  counted : ∀ entry ∈ scheduler.timers, entry.1 < scheduler.nextId
  ahead : ∀ entry ∈ scheduler.timers, scheduler.now < entry.2.due
  heard : ∀ call ∈ scheduler.calls, call.timer < scheduler.nextId

variable {scheduler : Scheduler} {id time target : Nat} {timer : Timer} {period : Duration}

theorem sound_empty : Sound {} where
  distinct := List.nodup_nil
  counted := by simp
  ahead := by simp
  heard := by simp

theorem register_eq_some_iff :
    (scheduler.register period).2 = some id ↔ scheduler.nextId = id ∧ id + 1 < UInt64.size := by
  unfold register
  by_cases room : scheduler.nextId + 1 < UInt64.size
  · simp only [if_pos room, Option.some.injEq]
    exact ⟨fun same => ⟨same, same ▸ room⟩, And.left⟩
  · simp only [if_neg room, reduceCtorEq, false_iff]
    intro ⟨same, fits⟩
    exact room (same ▸ fits)

theorem register_of_none (full : (scheduler.register period).2 = none) :
    (scheduler.register period).1 = scheduler := by
  by_cases room : scheduler.nextId + 1 < UInt64.size
  · simp only [register, if_pos room, reduceCtorEq] at full
  · simp only [register, if_neg room]

theorem Sound.register_of_some (sound : scheduler.Sound)
    (registered : (scheduler.register period).2 = some id) :
    (scheduler.register period).1 = { scheduler with
      nextId := id + 1
      timers := scheduler.timers ++ [(id, .start period scheduler.now)] } := by
  obtain ⟨rfl, room⟩ := register_eq_some_iff.mp registered
  have others : scheduler.timers.filter (fun entry => entry.1 ≠ scheduler.nextId) =
      scheduler.timers := by
    refine List.filter_eq_self.mpr fun entry member => decide_eq_true ?_
    exact Nat.ne_of_lt (sound.counted entry member)
  simp only [register, if_pos room, others]

theorem Timer.now_lt_due_start (period : Duration) (now : Nat) :
    now < (Timer.start period now).due := by
  have := (Timer.start period now).positive
  simp only [Timer.start] at this ⊢
  omega

theorem Sound.register (sound : scheduler.Sound) (period : Duration) :
    (scheduler.register period).1.Sound := by
  cases registered : (scheduler.register period).2 with
  | none => rwa [register_of_none registered]
  | some id =>
      rw [sound.register_of_some registered]
      obtain ⟨rfl, _⟩ := register_eq_some_iff.mp registered
      constructor
      · have fresh : scheduler.nextId ∉ scheduler.timers.map Prod.fst := by
          intro member
          obtain ⟨entry, among, same⟩ := List.mem_map.mp member
          exact absurd same (Nat.ne_of_lt (sound.counted entry among))
        rw [List.map_append, List.map_singleton]
        refine List.nodup_append.mpr ⟨sound.distinct, List.nodup_singleton _, ?_⟩
        intro key among other new same
        rw [same, List.mem_singleton.mp new] at among
        exact fresh among
      · intro entry member
        rcases List.mem_append.mp member with old | new
        · exact Nat.lt_succ_of_lt (sound.counted entry old)
        · rw [List.mem_singleton.mp new]
          exact Nat.lt_succ_self _
      · intro entry member
        rcases List.mem_append.mp member with old | new
        · exact sound.ahead entry old
        · rw [List.mem_singleton.mp new]
          exact Timer.now_lt_due_start ..
      · exact fun call member => Nat.lt_succ_of_lt (sound.heard call member)

theorem mem_clear {entry : Nat × Timer} :
    entry ∈ (scheduler.clear id).1.timers ↔ entry ∈ scheduler.timers ∧ entry.1 ≠ id := by
  simp [clear]

theorem clear_eq_true_iff :
    (scheduler.clear id).2 = true ↔ ∃ timer, (id, timer) ∈ scheduler.timers := by
  simp [clear]

theorem Sound.clear (sound : scheduler.Sound) (id : Nat) : (scheduler.clear id).1.Sound where
  distinct := (List.filter_sublist.map Prod.fst).nodup sound.distinct
  counted entry member := sound.counted entry (mem_clear.mp member).1
  ahead entry member := sound.ahead entry (mem_clear.mp member).1
  heard := sound.heard

theorem mem_stopAt {entry : Nat × Timer} :
    entry ∈ (scheduler.stopAt time).timers ↔
      ∃ timer, (entry.1, timer) ∈ scheduler.timers ∧ entry.2 = timer.pass time := by
  obtain ⟨id, after⟩ := entry
  simp only [stopAt, List.mem_map, Prod.mk.injEq]
  constructor
  · rintro ⟨⟨_, timer⟩, member, rfl, rfl⟩
    exact ⟨timer, member, rfl⟩
  · rintro ⟨timer, member, rfl⟩
    exact ⟨(id, timer), member, rfl, rfl⟩

theorem Timer.lt_due_pass (notMissed : time ≤ timer.due) : time < (timer.pass time).due := by
  have := timer.positive
  unfold Timer.pass
  split
  · change time < timer.due + timer.period
    omega
  · omega

theorem Sound.stopAt (sound : scheduler.Sound)
    (notMissed : ∀ entry ∈ scheduler.timers, time ≤ entry.2.due) :
    (scheduler.stopAt time).Sound where
  distinct := by
    have same : (scheduler.stopAt time).timers.map Prod.fst = scheduler.timers.map Prod.fst := by
      simp only [Scheduler.stopAt, List.map_map]
      rfl
    rw [same]
    exact sound.distinct
  counted entry member := by
    obtain ⟨timer, before, _⟩ := mem_stopAt.mp member
    exact sound.counted (entry.1, timer) before
  ahead entry member := by
    obtain ⟨timer, before, same⟩ := mem_stopAt.mp member
    rw [same]
    exact Timer.lt_due_pass (notMissed _ before)
  heard call member := by
    rcases List.mem_append.mp member with new | old
    · obtain ⟨entry, due, rfl⟩ := List.mem_map.mp new
      exact sound.counted entry (List.mem_of_mem_filter due)
    · exact sound.heard call old

theorem Sound.le_due_of_nextStop? (sound : scheduler.Sound)
    (found : scheduler.nextStop? target = some time) :
    ∀ entry ∈ scheduler.timers, time ≤ entry.2.due := by
  obtain ⟨_, _, within⟩ := mem_of_nextStop? found
  intro entry member
  by_cases onTheWay : entry.2.due ≤ target
  · refine (List.min?_eq_some_iff.mp found).2 _ ?_
    simp only [List.mem_filter, List.mem_map, decide_eq_true_eq]
    exact ⟨⟨entry, member, rfl⟩, sound.ahead entry member, onTheWay⟩
  · omega

theorem Sound.lt_due_of_nextStop? (sound : scheduler.Sound)
    (none : scheduler.nextStop? target = none) :
    ∀ entry ∈ scheduler.timers, target < entry.2.due := by
  intro entry member
  have empty := List.min?_eq_none_iff.mp none
  have passed := List.filter_eq_nil_iff.mp empty entry.2.due
    (List.mem_map.mpr ⟨entry, member, rfl⟩)
  have := sound.ahead entry member
  simp only [decide_eq_true_eq] at passed
  omega

/-- What every stop of the clock keeps, `advance` keeps.  A stop passes no deadline. -/
theorem Sound.advance_induction {motive : Scheduler → Prop} (sound : scheduler.Sound)
    (milliseconds : Nat) (begin : motive scheduler)
    (stop : ∀ scheduler time, scheduler.Sound → scheduler.now ≤ time →
      (∀ entry ∈ scheduler.timers, time ≤ entry.2.due) → motive scheduler →
        motive (scheduler.stopAt time)) :
    motive (scheduler.advance milliseconds) := by
  have forward : scheduler.now ≤ scheduler.now + milliseconds := Nat.le_add_right ..
  rw [Scheduler.advance]
  generalize scheduler.now + milliseconds = target at forward
  fun_induction advanceTo target scheduler with
  | case1 scheduler time found ih =>
      obtain ⟨_, later, within⟩ := mem_of_nextStop? found
      have notMissed := sound.le_due_of_nextStop? found
      exact ih (sound.stopAt notMissed)
        (stop scheduler time sound (Nat.le_of_lt later) notMissed begin) within
  | case2 scheduler none =>
      have notMissed := sound.lt_due_of_nextStop? none
      exact stop scheduler target sound forward
        (fun entry member => Nat.le_of_lt (notMissed entry member)) begin

theorem Sound.advance (sound : scheduler.Sound) (milliseconds : Nat) :
    (scheduler.advance milliseconds).Sound :=
  sound.advance_induction milliseconds sound fun _ _ sound _ notMissed _ =>
    sound.stopAt notMissed

theorem now_advanceTo (scheduler : Scheduler) (target : Nat) :
    (scheduler.advanceTo target).now = target := by
  fun_induction advanceTo target scheduler with
  | case1 _ _ _ ih => exact ih
  | case2 => rfl

theorem nextId_advanceTo (scheduler : Scheduler) (target : Nat) :
    (scheduler.advanceTo target).nextId = scheduler.nextId := by
  fun_induction advanceTo target scheduler with
  | case1 _ _ _ ih => exact ih
  | case2 => rfl

theorem mem_fst_advanceTo (scheduler : Scheduler) (target id : Nat) :
    (∃ timer, (id, timer) ∈ (scheduler.advanceTo target).timers) ↔
      ∃ timer, (id, timer) ∈ scheduler.timers := by
  have stopped (scheduler : Scheduler) (time : Nat) :
      (∃ timer, (id, timer) ∈ (scheduler.stopAt time).timers) ↔
        ∃ timer, (id, timer) ∈ scheduler.timers := by
    simp only [mem_stopAt]
    constructor
    · rintro ⟨_, timer, member, _⟩
      exact ⟨timer, member⟩
    · rintro ⟨timer, member⟩
      exact ⟨_, timer, member, rfl⟩
  fun_induction advanceTo target scheduler with
  | case1 scheduler time _ ih => exact ih.trans (stopped scheduler time)
  | case2 scheduler => exact stopped scheduler target

theorem Sound.perform (sound : scheduler.Sound) (request : Request) :
    (scheduler.perform request).Sound := by
  cases request with
  | register period => exact sound.register period
  | clear id => exact sound.clear id
  | advance milliseconds => exact sound.advance milliseconds

theorem Sound.run (sound : scheduler.Sound) (requests : List Request) :
    (scheduler.run requests).Sound := by
  induction requests generalizing scheduler with
  | nil => exact sound
  | cons request rest ih => exact ih (sound.perform request)

end Curfew.Scheduler
