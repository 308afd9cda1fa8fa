import Curfew.Proofs.Scheduler.Sound

namespace Curfew.Scheduler

/-! The calls of one timer.  As long as it is not cleared it calls once in every period after
its registration; from then on never again. -/

variable {scheduler : Scheduler} {id start period time : Nat} {request : Request}
variable {requests : List Request} {times : List Nat}

/-- The ends of the periods that go by in a span of time. -/
def deadlines (start period elapsed : Nat) : List Nat :=
  (List.range (elapsed / period)).map fun count => start + (count + 1) * period

structure Waits (scheduler : Scheduler) (id start period : Nat) : Prop where
  begun : start ≤ scheduler.now
  waiting : ∃ timer, (id, timer) ∈ scheduler.timers ∧ timer.period = period ∧
    timer.due = start + ((scheduler.now - start) / period + 1) * period
  called : scheduler.callTimes id = deadlines start period (scheduler.now - start)

structure Cleared (scheduler : Scheduler) (id : Nat) (times : List Nat) : Prop where
  counted : id < scheduler.nextId
  absent : ∀ timer, (id, timer) ∉ scheduler.timers
  called : scheduler.callTimes id = times

theorem filter_fst_of_mem {entries : List (Nat × Timer)} {timer : Timer}
    (distinct : (entries.map Prod.fst).Nodup) (member : (id, timer) ∈ entries) :
    entries.filter (fun entry => entry.1 == id) = [(id, timer)] := by
  induction entries with
  | nil => contradiction
  | cons first rest ih =>
      obtain ⟨fresh, restDistinct⟩ := List.nodup_cons.mp distinct
      rcases List.mem_cons.mp member with same | later
      · subst same
        have others : rest.filter (fun entry => entry.1 == id) = [] := by
          refine List.filter_eq_nil_iff.mpr fun entry among same => fresh ?_
          exact List.mem_map.mpr ⟨entry, among, eq_of_beq same⟩
        simp [others]
      · have different : first.1 ≠ id := by
          intro same
          exact fresh (same ▸ List.mem_map.mpr ⟨_, later, rfl⟩)
        simpa [different] using ih restDistinct later

theorem deadlines_of_same {elapsed later : Nat} (same : later / period = elapsed / period) :
    deadlines start period later = deadlines start period elapsed := by
  rw [deadlines, deadlines, same]

theorem deadlines_of_next {elapsed later : Nat} (next : later / period = elapsed / period + 1) :
    deadlines start period later =
      deadlines start period elapsed ++ [start + (elapsed / period + 1) * period] := by
  rw [deadlines, deadlines, next, List.range_succ, List.map_append, List.map_singleton]

theorem callTimes_eq_nil (unheard : ∀ call ∈ scheduler.calls, call.timer ≠ id) :
    scheduler.callTimes id = [] := by
  have none : scheduler.calls.filter (fun call => call.timer == id) = [] := by
    refine List.filter_eq_nil_iff.mpr fun call member same => ?_
    exact unheard call member (eq_of_beq same)
  rw [callTimes, none]
  rfl

theorem callTimes_stopAt (scheduler : Scheduler) (time id : Nat) :
    (scheduler.stopAt time).callTimes id = scheduler.callTimes id ++
      (((scheduler.timers.filter fun entry => entry.1 == id).filter
        fun entry => entry.2.due ≤ time).map fun _ => time).reverse := by
  simp only [callTimes, stopAt, List.filter_append, List.map_append, List.reverse_append,
    List.filter_map, List.map_map, List.filter_filter]
  congr 2
  simp only [Function.comp_def, Bool.and_comm]

theorem Waits.stopAt (waits : scheduler.Waits id start period) (sound : scheduler.Sound)
    (forward : scheduler.now ≤ time) (notMissed : ∀ entry ∈ scheduler.timers, time ≤ entry.2.due) :
    (scheduler.stopAt time).Waits id start period := by
  obtain ⟨begun, ⟨timer, member, rfl, due⟩, called⟩ := waits
  have positive := timer.positive
  have early : time ≤ timer.due := notMissed _ member
  have calls := callTimes_stopAt scheduler time id
  rw [filter_fst_of_mem sound.distinct member, called] at calls
  have after : (id, timer.pass time) ∈ (scheduler.stopAt time).timers :=
    mem_stopAt.mpr ⟨timer, member, rfl⟩
  have reached : (scheduler.now - start) / timer.period * timer.period ≤ scheduler.now - start :=
    Nat.div_mul_le_self ..
  have now : (scheduler.stopAt time).now = time := rfl
  by_cases met : timer.due ≤ time
  · have next : (time - start) / timer.period =
        (scheduler.now - start) / timer.period + 1 := by
      have whole : time - start = ((scheduler.now - start) / timer.period + 1) * timer.period := by
        omega
      rw [whole, Nat.mul_div_cancel _ positive]
    refine ⟨Nat.le_trans begun forward, ⟨_, after, ?_, ?_⟩, ?_⟩
    · simp [Timer.pass, met]
    · rw [now, next, Timer.pass, if_pos met, Nat.add_mul _ 1, Nat.one_mul]
      change timer.due + timer.period = _
      omega
    · rw [calls, now, deadlines_of_next next]
      simp [show time = timer.due by omega, due]
  · have same : (time - start) / timer.period = (scheduler.now - start) / timer.period := by
      refine Nat.div_eq_of_lt_le ?_ ?_
      · omega
      · omega
    refine ⟨Nat.le_trans begun forward, ⟨_, after, ?_, ?_⟩, ?_⟩
    · simp [Timer.pass, met]
    · rw [now, same, Timer.pass, if_neg met, due]
    · rw [calls, now, deadlines_of_same same]
      simp [met]

theorem Cleared.stopAt (cleared : scheduler.Cleared id times) (time : Nat) :
    (scheduler.stopAt time).Cleared id times where
  counted := cleared.counted
  absent timer member := by
    obtain ⟨before, present, _⟩ := mem_stopAt.mp member
    exact cleared.absent before present
  called := by
    have none : scheduler.timers.filter (fun entry => entry.1 == id) = [] := by
      refine List.filter_eq_nil_iff.mpr fun entry member same => ?_
      exact cleared.absent entry.2 (eq_of_beq same ▸ member)
    rw [callTimes_stopAt, none, cleared.called]
    exact List.append_nil _

theorem Waits.advance (waits : scheduler.Waits id start period) (sound : scheduler.Sound)
    (milliseconds : Nat) : (scheduler.advance milliseconds).Waits id start period :=
  sound.advance_induction (motive := fun scheduler => scheduler.Waits id start period)
    milliseconds waits fun _ _ sound forward notMissed waits =>
      waits.stopAt sound forward notMissed

theorem Cleared.advance (cleared : scheduler.Cleared id times) (sound : scheduler.Sound)
    (milliseconds : Nat) : (scheduler.advance milliseconds).Cleared id times :=
  sound.advance_induction (motive := fun scheduler => scheduler.Cleared id times)
    milliseconds cleared fun _ time _ _ _ cleared => cleared.stopAt time

theorem Waits.register (waits : scheduler.Waits id start period) (sound : scheduler.Sound)
    (other : Duration) : (scheduler.register other).1.Waits id start period := by
  cases registered : (scheduler.register other).2 with
  | none => rwa [register_of_none registered]
  | some new =>
      obtain ⟨begun, ⟨timer, member, waiting⟩, called⟩ := waits
      rw [sound.register_of_some registered]
      exact ⟨begun, ⟨timer, List.mem_append_left _ member, waiting⟩, called⟩

theorem Cleared.register (cleared : scheduler.Cleared id times) (sound : scheduler.Sound)
    (other : Duration) : (scheduler.register other).1.Cleared id times := by
  cases registered : (scheduler.register other).2 with
  | none => rwa [register_of_none registered]
  | some new =>
      obtain ⟨counted, absent, called⟩ := cleared
      obtain ⟨rfl, _⟩ := register_eq_some_iff.mp registered
      rw [sound.register_of_some registered]
      refine ⟨Nat.lt_succ_of_lt counted, fun timer member => ?_, called⟩
      rcases List.mem_append.mp member with old | new
      · exact absent timer old
      · cases List.mem_singleton.mp new
        exact Nat.lt_irrefl _ counted

theorem Waits.clear_other (waits : scheduler.Waits id start period) {other : Nat}
    (different : id ≠ other) : (scheduler.clear other).1.Waits id start period := by
  obtain ⟨begun, ⟨timer, member, waiting⟩, called⟩ := waits
  exact ⟨begun, ⟨timer, mem_clear.mpr ⟨member, different⟩, waiting⟩, called⟩

theorem Waits.clear_self (waits : scheduler.Waits id start period) (sound : scheduler.Sound) :
    (scheduler.clear id).1.Cleared id (deadlines start period (scheduler.now - start)) := by
  obtain ⟨_, ⟨timer, member, _⟩, called⟩ := waits
  exact ⟨sound.counted _ member, fun timer present => (mem_clear.mp present).2 rfl, called⟩

theorem Cleared.clear (cleared : scheduler.Cleared id times) (other : Nat) :
    (scheduler.clear other).1.Cleared id times :=
  ⟨cleared.counted, fun timer member => cleared.absent timer (mem_clear.mp member).1,
    cleared.called⟩

theorem Waits.perform (waits : scheduler.Waits id start period) (sound : scheduler.Sound)
    (kept : request ≠ .clear id) : (scheduler.perform request).Waits id start period := by
  cases request with
  | register other => exact waits.register sound other
  | advance milliseconds => exact waits.advance sound milliseconds
  | clear other =>
      refine waits.clear_other fun same => kept ?_
      rw [same]

theorem Cleared.perform (cleared : scheduler.Cleared id times) (sound : scheduler.Sound)
    (request : Request) : (scheduler.perform request).Cleared id times := by
  cases request with
  | register other => exact cleared.register sound other
  | clear other => exact cleared.clear other
  | advance milliseconds => exact cleared.advance sound milliseconds

theorem Waits.run (waits : scheduler.Waits id start period) (sound : scheduler.Sound)
    (kept : .clear id ∉ requests) : (scheduler.run requests).Waits id start period := by
  induction requests generalizing scheduler with
  | nil => exact waits
  | cons request rest ih =>
      obtain ⟨first, later⟩ := List.ne_and_not_mem_of_not_mem_cons kept
      exact ih (waits.perform sound first.symm) (sound.perform request) later

theorem Cleared.run (cleared : scheduler.Cleared id times) (sound : scheduler.Sound)
    (requests : List Request) : (scheduler.run requests).Cleared id times := by
  induction requests generalizing scheduler with
  | nil => exact cleared
  | cons request rest ih => exact ih (cleared.perform sound request) (sound.perform request)

theorem Sound.waits_register (sound : scheduler.Sound) {period : Duration}
    (registered : (scheduler.register period).2 = some id) :
    (scheduler.register period).1.Waits id scheduler.now (max period.milliseconds 1) := by
  obtain ⟨rfl, _⟩ := register_eq_some_iff.mp registered
  rw [sound.register_of_some registered]
  have silent : scheduler.callTimes scheduler.nextId = [] :=
    callTimes_eq_nil fun call member => Nat.ne_of_lt (sound.heard call member)
  refine ⟨Nat.le_refl _, ⟨.start period scheduler.now, ?_, rfl, ?_⟩, silent.trans ?_⟩
  · exact List.mem_append_right _ (List.mem_singleton_self _)
  · simp [Timer.start]
  · simp [deadlines]

end Curfew.Scheduler
