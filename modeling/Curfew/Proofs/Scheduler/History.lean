import Curfew.Proofs.Scheduler.Calls
import Mathlib.Data.List.Induction
import Mathlib.Data.List.TakeWhile

namespace Curfew.Scheduler

/-! What a run of requests comes to, read off the requests themselves: when each timer was
registered, whether it has been cleared since, and what the clock shows. -/

variable {scheduler : Scheduler} {id : Nat} {period : Duration}
variable {requests before after : List Request}

def Request.lasts : Request → Nat
  | .advance milliseconds => milliseconds
  | _ => 0

def Request.isRegistration : Request → Bool
  | .register _ => true
  | _ => false

/-- What the clock shows after the requests. -/
def clock : List Request → Nat
  | [] => 0
  | request :: rest => request.lasts + clock rest

/-- The requests up to the one that clears a timer, if there is one. -/
def untilCleared (id : Nat) (requests : List Request) : List Request :=
  requests.takeWhile (· ≠ .clear id)

/-- The `register` between `before` and `after` was answered with `id`. -/
structure Registered (requests : List Request) (id : Nat) (period : Duration)
    (before after : List Request) : Prop where
  split : requests = before ++ .register period :: after
  answered : ((run {} before).register period).2 = some id

def IsActive (requests : List Request) (id : Nat) : Prop :=
  ∃ period before after, Registered requests id period before after ∧ .clear id ∉ after

theorem run_append (scheduler : Scheduler) (before after : List Request) :
    scheduler.run (before ++ after) = (scheduler.run before).run after :=
  List.foldl_append ..

theorem run_concat (scheduler : Scheduler) (before : List Request) (request : Request) :
    scheduler.run (before ++ [request]) = (scheduler.run before).perform request :=
  run_append ..

theorem sound_run (requests : List Request) : (run {} requests).Sound :=
  sound_empty.run requests

theorem clock_cons (request : Request) (rest : List Request) :
    clock (request :: rest) = request.lasts + clock rest := rfl

theorem clock_append (before after : List Request) :
    clock (before ++ after) = clock before + clock after := by
  induction before with
  | nil => exact (Nat.zero_add _).symm
  | cons request rest ih => rw [List.cons_append, clock_cons, clock_cons, ih, Nat.add_assoc]

theorem now_perform (scheduler : Scheduler) (request : Request) :
    (scheduler.perform request).now = scheduler.now + request.lasts := by
  cases request with
  | register period =>
      unfold perform register
      dsimp only
      split <;> rfl
  | clear id => rfl
  | advance milliseconds => exact now_advanceTo ..

theorem now_run (scheduler : Scheduler) (requests : List Request) :
    (scheduler.run requests).now = scheduler.now + clock requests := by
  induction requests generalizing scheduler with
  | nil => rfl
  | cons request rest ih =>
      rw [clock_cons, ← Nat.add_assoc, ← now_perform]
      exact ih _

theorem nextId_perform (scheduler : Scheduler) (request : Request) :
    (scheduler.perform request).nextId =
      if request.isRegistration ∧ scheduler.nextId + 1 < UInt64.size then scheduler.nextId + 1
      else scheduler.nextId := by
  cases request with
  | register period =>
      unfold perform register
      dsimp only
      split
      · rename_i room
        exact (if_pos ⟨rfl, room⟩).symm
      · rename_i full
        exact (if_neg fun both => full both.2).symm
  | clear id => rfl
  | advance milliseconds => exact nextId_advanceTo ..

theorem nextId_le_run (scheduler : Scheduler) (requests : List Request) :
    scheduler.nextId ≤ (scheduler.run requests).nextId := by
  induction requests generalizing scheduler with
  | nil => exact Nat.le_refl _
  | cons request rest ih =>
      refine Nat.le_trans ?_ (ih _)
      rw [nextId_perform]
      split
      · exact Nat.le_succ _
      · exact Nat.le_refl _

theorem nextId_run (requests : List Request) :
    (run {} requests).nextId = min (requests.countP (·.isRegistration)) (UInt64.size - 1) := by
  induction requests using List.reverseRecOn with
  | nil => rfl
  | append_singleton before request ih =>
      rw [run_concat, nextId_perform, ih, List.countP_append, List.countP_singleton]
      cases request.isRegistration with
      | true => simp only [true_and, if_true]; split <;> omega
      | false => simp

theorem Registered.concat (registered : Registered requests id period before after)
    (request : Request) :
    Registered (requests ++ [request]) id period before (after ++ [request]) where
  split := by rw [registered.split, List.append_assoc]; rfl
  answered := registered.answered

theorem Registered.run_eq (registered : Registered requests id period before after) :
    run {} requests = (((run {} before).register period).1).run after := by
  rw [registered.split, run_append]
  rfl

theorem Registered.clock_eq (registered : Registered requests id period before after) :
    clock requests = clock before + clock after := by
  have timeless : (Request.register period).lasts = 0 := rfl
  rw [registered.split, clock_append, clock_cons, timeless, Nat.zero_add]

/-- The count of ids never goes back, so an id is not given out again. -/
theorem Registered.not_later {period' : Duration} {before' after' middle : List Request}
    (first : Registered requests id period before after)
    (second : Registered requests id period' before' after') :
    before' ≠ before ++ .register period :: middle := by
  rintro rfl
  obtain ⟨given, room⟩ := register_eq_some_iff.mp first.answered
  obtain ⟨again, _⟩ := register_eq_some_iff.mp second.answered
  have counted : ((run {} before).perform (.register period)).nextId = id + 1 := by
    rw [nextId_perform, if_pos ⟨rfl, given.symm ▸ room⟩, given]
  have later := nextId_le_run ((run {} before).perform (.register period)) middle
  rw [counted] at later
  rw [run_append] at again
  exact absurd again (Nat.ne_of_gt later)

theorem Registered.unique {period' : Duration} {before' after' : List Request}
    (first : Registered requests id period before after)
    (second : Registered requests id period' before' after') :
    period = period' ∧ before = before' ∧ after = after' := by
  have both := first.split.symm.trans second.split
  have same : before = before' := by
    rcases List.append_eq_append_iff.mp both with
      ⟨middle, longer, rest⟩ | ⟨middle, longer, rest⟩
    · cases middle with
      | nil => rw [longer, List.append_nil]
      | cons request middle =>
          cases rest
          exact absurd longer (first.not_later second)
    · cases middle with
      | nil => rw [longer, List.append_nil]
      | cons request middle =>
          cases rest
          exact absurd longer (second.not_later first)
  subst same
  have rest := List.append_cancel_left both
  cases rest
  exact ⟨rfl, rfl, rfl⟩

theorem Registered.waits (registered : Registered requests id period before after)
    (kept : .clear id ∉ after) :
    (run {} requests).Waits id (clock before) (max period.milliseconds 1) := by
  have sound := sound_run before
  have waits := sound.waits_register registered.answered
  rw [now_run, Nat.zero_add] at waits
  rw [registered.run_eq]
  exact waits.run (sound.register period) kept

theorem untilCleared_of_not_mem (kept : .clear id ∉ after) : untilCleared id after = after := by
  refine List.takeWhile_eq_self_iff.mpr fun request member => decide_eq_true ?_
  intro same
  exact kept (same ▸ member)

theorem Registered.cleared (registered : Registered requests id period before after)
    (gone : .clear id ∈ after) :
    (run {} requests).Cleared id
      (deadlines (clock before) (max period.milliseconds 1) (clock (untilCleared id after))) := by
  obtain ⟨kept, later, split, first⟩ := List.eq_append_cons_of_mem gone
  have untilThen : untilCleared id after = kept := by
    rw [split, untilCleared, List.takeWhile_append_of_pos]
    · simp
    · intro request member
      exact decide_eq_true fun same => first (same ▸ member)
  have alive : Registered (before ++ .register period :: kept) id period before kept :=
    ⟨rfl, registered.answered⟩
  have sound := sound_run (before ++ .register period :: kept)
  have cleared := (alive.waits first).clear_self sound
  have elapsed : (run {} (before ++ .register period :: kept)).now - clock before = clock kept := by
    rw [now_run, Nat.zero_add, alive.clock_eq, Nat.add_sub_cancel_left]
  have whole : requests = (before ++ .register period :: kept) ++ .clear id :: later := by
    rw [registered.split, split, List.append_assoc]
    rfl
  rw [elapsed] at cleared
  rw [untilThen, whole, run_append]
  exact cleared.run (sound.clear id) later

/-- The calls of a timer depend on its own `register` and on the clock until it is cleared, and on
nothing else. -/
theorem Registered.callTimes_eq (registered : Registered requests id period before after) :
    (run {} requests).callTimes id =
      deadlines (clock before) (max period.milliseconds 1) (clock (untilCleared id after)) := by
  by_cases gone : .clear id ∈ after
  · exact (registered.cleared gone).called
  · have called := (registered.waits gone).called
    have elapsed : (run {} requests).now - clock before = clock after := by
      rw [now_run, Nat.zero_add, registered.clock_eq, Nat.add_sub_cancel_left]
    rw [called, elapsed, untilCleared_of_not_mem gone]

theorem IsActive.concat (active : IsActive requests id) {request : Request}
    (kept : request ≠ .clear id) : IsActive (requests ++ [request]) id := by
  obtain ⟨period, before, after, registered, alive⟩ := active
  refine ⟨period, before, after ++ [request], registered.concat request, fun member => ?_⟩
  rcases List.mem_append.mp member with old | new
  · exact alive old
  · exact kept (List.mem_singleton.mp new).symm

theorem isActive_of_mem (present : ∃ timer, (id, timer) ∈ (run {} requests).timers) :
    IsActive requests id := by
  induction requests using List.reverseRecOn with
  | nil =>
      obtain ⟨timer, member⟩ := present
      contradiction
  | append_singleton before request ih =>
      rw [run_concat] at present
      cases request with
      | advance milliseconds =>
          have before := (mem_fst_advanceTo ..).mp present
          exact (ih before).concat (by simp)
      | clear other =>
          obtain ⟨timer, member⟩ := present
          obtain ⟨old, different⟩ := mem_clear.mp member
          refine (ih ⟨timer, old⟩).concat fun same => different ?_
          cases same
          rfl
      | register period =>
          obtain ⟨timer, member⟩ := present
          cases registered : ((run {} before).register period).2 with
          | none =>
              rw [perform, register_of_none registered] at member
              exact (ih ⟨timer, member⟩).concat (by simp)
          | some new =>
              rw [perform, (sound_run before).register_of_some registered] at member
              rcases List.mem_append.mp member with old | fresh
              · exact (ih ⟨timer, old⟩).concat (by simp)
              · cases List.mem_singleton.mp fresh
                exact ⟨period, before, [], ⟨rfl, registered⟩, List.not_mem_nil⟩

theorem mem_iff_isActive :
    (∃ timer, (id, timer) ∈ (run {} requests).timers) ↔ IsActive requests id := by
  constructor
  · exact isActive_of_mem
  · intro ⟨period, before, after, registered, alive⟩
    obtain ⟨timer, member, _⟩ := (registered.waits alive).waiting
    exact ⟨timer, member⟩

theorem exists_registered (counted : id < (run {} requests).nextId) :
    ∃ period before after, Registered requests id period before after := by
  induction requests using List.reverseRecOn with
  | nil => exact absurd counted (Nat.not_lt_zero _)
  | append_singleton before request ih =>
      by_cases old : id < (run {} before).nextId
      · obtain ⟨period, earlier, after, registered⟩ := ih old
        exact ⟨period, earlier, after ++ [request], registered.concat request⟩
      · rw [run_concat, nextId_perform] at counted
        cases request with
        | register period =>
            split at counted
            · rename_i room
              have last : (run {} before).nextId = id := by omega
              exact ⟨period, before, [], rfl, register_eq_some_iff.mpr ⟨last, last ▸ room.2⟩⟩
            · exact absurd counted old
        | clear other => exact absurd counted old
        | advance milliseconds => exact absurd counted old

theorem callTimes_of_not_registered
    (never : ∀ period before after, ¬ Registered requests id period before after) :
    (run {} requests).callTimes id = [] := by
  apply callTimes_eq_nil
  intro call member same
  have counted := (sound_run requests).heard call member
  rw [same] at counted
  obtain ⟨period, before, after, registered⟩ := exists_registered counted
  exact never period before after registered

variable {start elapsed time : Nat}

theorem length_deadlines (start period elapsed : Nat) :
    (deadlines start period elapsed).length = elapsed / period := by
  simp [deadlines]

theorem le_of_mem_deadlines {period : Nat} (member : time ∈ deadlines start period elapsed) :
    start + period ≤ time := by
  obtain ⟨count, _, rfl⟩ := List.mem_map.mp member
  rw [Nat.add_mul, Nat.one_mul]
  omega

theorem countP_range_lt (bound n : Nat) :
    (List.range n).countP (· < bound) = min bound n := by
  induction n with
  | zero => simp
  | succ n ih =>
      rw [List.range_succ, List.countP_append, ih, List.countP_singleton]
      simp only [decide_eq_true_eq]
      split <;> omega

theorem countP_deadlines {period : Nat} (positive : 0 < period) (begun : start ≤ time)
    (within : time ≤ start + elapsed) :
    (deadlines start period elapsed).countP (· ≤ time) = (time - start) / period := by
  have fewer : (time - start) / period ≤ elapsed / period := by
    apply Nat.div_le_div_right
    omega
  have met (count : Nat) : start + (count + 1) * period ≤ time ↔ count < (time - start) / period := by
    rw [Nat.lt_iff_add_one_le, Nat.le_div_iff_mul_le positive]
    omega
  rw [deadlines, List.countP_map]
  simp only [Function.comp_def, met]
  rw [countP_range_lt, Nat.min_eq_left fewer]

theorem isSome_register_iff (requests : List Request) (period : Duration) :
    ((run {} requests).register period).2.isSome ↔
      requests.countP (·.isRegistration) + 1 < UInt64.size := by
  rw [Option.isSome_iff_exists]
  simp only [register_eq_some_iff, exists_eq_left', nextId_run]
  omega

theorem exists_active_ids (requests : List Request) :
    ∃ ids : List Nat, ids.Nodup ∧ (∀ id, id ∈ ids ↔ IsActive requests id) ∧
      (run {} requests).activeCount = ids.length := by
  refine ⟨(run {} requests).timers.map Prod.fst, (sound_run requests).distinct, fun id => ?_, ?_⟩
  · rw [← mem_iff_isActive]
    simp
  · rw [activeCount, List.length_map]

/-- What a timer has called since its registration, and what has no part in it. -/
structure KeepsTime (requests : List Request) (id : Nat) (period : Duration)
    (before after : List Request) : Prop where
  count : .clear id ∉ after →
    ((run {} requests).callTimes id).length =
      (clock requests - clock before) / max period.milliseconds 1
  countUntil : .clear id ∉ after → ∀ time, clock before ≤ time → time ≤ clock requests →
    ((run {} requests).callTimes id).countP (· ≤ time) =
      (time - clock before) / max period.milliseconds 1
  notEarly : ∀ time ∈ (run {} requests).callTimes id,
    clock before + max period.milliseconds 1 ≤ time
  notAgain : .clear id ∈ after → ∀ later,
    (run {} (requests ++ later)).callTimes id = (run {} requests).callTimes id
  alone : ∀ requests' id' before' after', Registered requests' id' period before' after' →
    clock before' = clock before →
      clock (untilCleared id' after') = clock (untilCleared id after) →
        (run {} requests').callTimes id' = (run {} requests).callTimes id
  others : ∀ first other second, after = first ++ other :: second →
    other ≠ .clear id → other.lasts = 0 →
      (run {} (before ++ .register period :: (first ++ second))).callTimes id =
        (run {} requests).callTimes id

theorem clock_untilCleared_drop {first second : List Request} {other : Request}
    (kept : other ≠ .clear id) (timeless : other.lasts = 0) :
    clock (untilCleared id (first ++ second)) =
      clock (untilCleared id (first ++ other :: second)) := by
  induction first with
  | nil =>
      have dropped : untilCleared id (other :: second) = other :: untilCleared id second :=
        List.takeWhile_cons_of_pos (decide_eq_true kept)
      rw [List.nil_append, List.nil_append, dropped, clock_cons, timeless, Nat.zero_add]
  | cons request rest ih =>
      by_cases clears : request = .clear id
      · simp [untilCleared, clears]
      · have more (requests : List Request) :
            untilCleared id (request :: requests) = request :: untilCleared id requests :=
          List.takeWhile_cons_of_pos (decide_eq_true clears)
        rw [List.cons_append, List.cons_append, more, more, clock_cons, clock_cons, ih]

theorem Registered.keepsTime (registered : Registered requests id period before after) :
    KeepsTime requests id period before after where
  count kept := by
    rw [registered.callTimes_eq, length_deadlines, untilCleared_of_not_mem kept,
      registered.clock_eq, Nat.add_sub_cancel_left]
  countUntil kept time begun within := by
    have positive : 0 < max period.milliseconds 1 := by omega
    rw [registered.clock_eq] at within
    rw [registered.callTimes_eq, untilCleared_of_not_mem kept]
    exact countP_deadlines positive begun within
  notEarly time member := by
    rw [registered.callTimes_eq] at member
    exact le_of_mem_deadlines member
  notAgain gone later := by
    have cleared := registered.cleared gone
    rw [run_append, (cleared.run (sound_run requests) later).called, cleared.called]
  alone requests' id' before' after' registered' sameStart sameEnd := by
    rw [registered'.callTimes_eq, registered.callTimes_eq, sameStart, sameEnd]
  others first other second split kept timeless := by
    have without : Registered (before ++ .register period :: (first ++ second)) id period before
        (first ++ second) := ⟨rfl, registered.answered⟩
    rw [without.callTimes_eq, registered.callTimes_eq, split, clock_untilCleared_drop kept timeless]

/-- Any run of `register`, `clear` and `advance`.  As long as ids last every `register` gives a new
one; `clear` of an id succeeds exactly while its timer is active, which is from its `register` to
its first `clear`; and the timers count as many as are active.  When a timer calls follows from the
time and the period of its own `register`, its own `clear` and the clock, whatever the other timers
are. -/
theorem timers_apart (requests : List Request) :
    (run {} requests).now = clock requests ∧
    (∀ period, ((run {} requests).register period).2.isSome ↔
      requests.countP (·.isRegistration) + 1 < UInt64.size) ∧
    (∀ id period before after period' before' after',
      Registered requests id period before after → Registered requests id period' before' after' →
        period = period' ∧ before = before' ∧ after = after') ∧
    (∀ id, ((run {} requests).clear id).2 = true ↔ IsActive requests id) ∧
    (∃ ids : List Nat, ids.Nodup ∧ (∀ id, id ∈ ids ↔ IsActive requests id) ∧
      (run {} requests).activeCount = ids.length) ∧
    (∀ id period before after, Registered requests id period before after →
      KeepsTime requests id period before after) ∧
    ∀ id, (∀ period before after, ¬ Registered requests id period before after) →
      (run {} requests).callTimes id = [] := by
  refine ⟨?_, isSome_register_iff requests, ?_, fun id => ?_, exists_active_ids requests, ?_, ?_⟩
  · rw [now_run, Nat.zero_add]
  · exact fun id period before after period' before' after' first second => first.unique second
  · exact clear_eq_true_iff.trans mem_iff_isActive
  · exact fun id period before after registered => registered.keepsTime
  · exact fun id never => callTimes_of_not_registered never

example : (run {} [.register ⟨1000, by decide⟩, .advance 1500, .register .zero, .clear 0,
    .advance 3]).calls = [⟨1, 1503⟩, ⟨1, 1502⟩, ⟨1, 1501⟩, ⟨0, 1000⟩] := by
  decide +kernel

end Curfew.Scheduler
