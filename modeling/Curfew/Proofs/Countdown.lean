import Curfew.Countdown
import Mathlib.Data.List.Induction

namespace Curfew

/-! Time as a countdown sees it.  A clock is read at ticks, and what goes by between two
of them is charged unless the clock has gone back.  The bound on a single span never
shows: a countdown holds no more than that bound. -/

/-- Each tick with the one before it. -/
def steps : Instant → List Instant → List (Instant × Instant)
  | _, [] => []
  | previous, tick :: rest => (previous, tick) :: steps tick rest

/-- The milliseconds that go by in steps.  A step back counts as none. -/
def charge : List (Instant × Instant) → Nat
  | [] => 0
  | (earlier, later) :: rest => (later.milliseconds - earlier.milliseconds).toNat + charge rest

def elapsed (start : Instant) (ticks : List Instant) : Nat :=
  charge (steps start ticks)

theorem steps_concat (start : Instant) (ticks : List Instant) (now : Instant) :
    steps start (ticks ++ [now]) = steps start ticks ++ [(ticks.getLastD start, now)] := by
  induction ticks generalizing start with
  | nil => rfl
  | cons tick rest ih => simp only [List.cons_append, steps, ih, List.getLastD_cons]

theorem charge_concat (before : List (Instant × Instant)) (earlier later : Instant) :
    charge (before ++ [(earlier, later)]) =
      charge before + (later.milliseconds - earlier.milliseconds).toNat := by
  induction before with
  | nil => simp [charge]
  | cons step rest ih =>
      rw [List.cons_append, charge, charge, ih]
      omega

@[simp] theorem elapsed_nil (start : Instant) : elapsed start [] = 0 := rfl

theorem elapsed_cons (start tick : Instant) (rest : List Instant) :
    elapsed start (tick :: rest) =
      (tick.milliseconds - start.milliseconds).toNat + elapsed tick rest := rfl

theorem elapsed_concat (start : Instant) (ticks : List Instant) (now : Instant) :
    elapsed start (ticks ++ [now]) =
      elapsed start ticks +
        (now.milliseconds - (ticks.getLastD start).milliseconds).toNat := by
  rw [elapsed, steps_concat, charge_concat, elapsed]

theorem elapsed_le_cons (start tick : Instant) (rest : List Instant) :
    elapsed start rest ≤ elapsed start (tick :: rest) := by
  cases rest with
  | nil => exact Nat.zero_le _
  | cons next rest =>
      simp only [elapsed_cons]
      omega

theorem elapsed_le_of_sublist {ticks more : List Instant} (fewer : ticks.Sublist more)
    (start : Instant) : elapsed start ticks ≤ elapsed start more := by
  induction fewer generalizing start with
  | slnil => exact Nat.le_refl _
  | cons tick _ ih => exact Nat.le_trans (ih start) (elapsed_le_cons start tick _)
  | cons_cons tick _ ih => exact Nat.add_le_add_left (ih tick) _

theorem span_le_elapsed (start : Instant) (ticks : List Instant) :
    (ticks.getLastD start).milliseconds - start.milliseconds ≤ elapsed start ticks := by
  induction ticks generalizing start with
  | nil => simp
  | cons tick rest ih =>
      have later := ih tick
      rw [List.getLastD_cons, elapsed_cons]
      omega

theorem le_getLastD {first : Instant} {rest : List Instant}
    (ordered : (first :: rest).Pairwise fun earlier later =>
      earlier.milliseconds ≤ later.milliseconds) :
    first.milliseconds ≤ (rest.getLastD first).milliseconds := by
  rcases List.mem_cons.mp (List.getLastD_mem_cons (l := rest) (a := first)) with same | later
  · exact Int.le_of_eq (congrArg _ same.symm)
  · exact List.rel_of_pairwise_cons ordered later

theorem elapsed_of_ordered {start : Instant} {ticks : List Instant}
    (ordered : (start :: ticks).Pairwise fun earlier later =>
      earlier.milliseconds ≤ later.milliseconds) :
    elapsed start ticks = (ticks.getLastD start).milliseconds - start.milliseconds := by
  induction ticks generalizing start with
  | nil => simp
  | cons tick rest ih =>
      have forward : start.milliseconds ≤ tick.milliseconds :=
        List.rel_of_pairwise_cons ordered (.head _)
      have onward := ih ordered.of_cons
      rw [List.getLastD_cons, elapsed_cons]
      omega

namespace Countdown

theorem ext_fields {left right : Countdown}
    (remaining : left.remaining.milliseconds = right.remaining.milliseconds)
    (previous : left.previous = right.previous) : left = right := by
  cases left; cases right
  cases Duration.ext_milliseconds remaining
  cases previous
  rfl

theorem synchronize_remaining (countdown : Countdown) (now : Instant) :
    (countdown.synchronize now).remaining.milliseconds =
      countdown.remaining.milliseconds -
        (now.milliseconds - countdown.previous.milliseconds).toNat := by
  have bounded := countdown.remaining.bounded
  simp only [synchronize, Duration.minusOrZero, Instant.till, Duration.clamped]
  omega

theorem isFinished_iff (countdown : Countdown) :
    countdown.isFinished = true ↔ countdown.remaining.milliseconds = 0 := by
  simp [isFinished, Duration.isZero]

theorem synchronize_synchronize {countdown : Countdown} {earlier later : Instant}
    (follows : countdown.previous.milliseconds ≤ earlier.milliseconds)
    (ordered : earlier.milliseconds ≤ later.milliseconds) :
    (countdown.synchronize earlier).synchronize later = countdown.synchronize later := by
  apply ext_fields
  · rw [synchronize_remaining, synchronize_remaining, synchronize_remaining]
    change countdown.remaining.milliseconds -
        (earlier.milliseconds - countdown.previous.milliseconds).toNat -
          (later.milliseconds - earlier.milliseconds).toNat = _
    omega
  · rfl

theorem isFinished_synchronize {countdown : Countdown} {earlier later : Instant}
    (finished : (countdown.synchronize earlier).isFinished = true)
    (ordered : earlier.milliseconds ≤ later.milliseconds) :
    (countdown.synchronize later).isFinished = true := by
  rw [isFinished_iff, synchronize_remaining] at finished ⊢
  omega

/-- A countdown of `total` begun at `start` and synchronized at every tick. -/
def after (total : Duration) (start : Instant) (ticks : List Instant) : Countdown where
  remaining := ⟨total.milliseconds - elapsed start ticks,
    Nat.le_trans (Nat.sub_le ..) total.bounded⟩
  previous := ticks.getLastD start

@[simp] theorem after_nil (total : Duration) (start : Instant) :
    after total start [] = ⟨total, start⟩ := rfl

theorem synchronize_after (total : Duration) (start : Instant) (ticks : List Instant)
    (now : Instant) :
    (after total start ticks).synchronize now = after total start (ticks ++ [now]) := by
  apply ext_fields
  · rw [synchronize_remaining]
    simp only [after, elapsed_concat]
    omega
  · simp [synchronize, after]

/-- The countdown as long as it has not run out.  It is looked at only at ticks, and not
synchronized after it has run out. -/
def running? (total : Duration) (start : Instant) (ticks : List Instant) : Option Countdown :=
  if ticks = [] ∨ elapsed start ticks < total.milliseconds then some (after total start ticks)
  else none

@[simp] theorem running?_nil (total : Duration) (start : Instant) :
    running? total start [] = some ⟨total, start⟩ := by
  simp [running?]

theorem running?_concat (total : Duration) (start : Instant) (ticks : List Instant)
    (now : Instant) :
    running? total start (ticks ++ [now]) =
      ((running? total start ticks).map (·.synchronize now)).filter (!·.isFinished) := by
  have moved := synchronize_after total start ticks now
  have grows := elapsed_concat start ticks now
  have left : (after total start (ticks ++ [now])).isFinished = true ↔
      total.milliseconds ≤ elapsed start (ticks ++ [now]) := by
    rw [isFinished_iff]
    exact Nat.sub_eq_zero_iff_le
  by_cases runs : ticks = [] ∨ elapsed start ticks < total.milliseconds
  · rw [running?, running?, if_pos runs]
    simp only [Option.map_some, moved, List.append_eq_nil_iff, List.cons_ne_nil, and_false,
      false_or]
    by_cases more : elapsed start (ticks ++ [now]) < total.milliseconds
    · have unfinished : (after total start (ticks ++ [now])).isFinished = false := by
        rw [Bool.eq_false_iff]
        exact fun finished => absurd (left.mp finished) (by omega)
      simp [more, Option.filter, unfinished]
    · simp [more, Option.filter, left.mpr (by omega)]
  · have ended : ¬ elapsed start (ticks ++ [now]) < total.milliseconds := by omega
    simp [running?, runs, ended]

def remainingAfter (countdown : Countdown) (ticks : List Instant) : Nat :=
  (ticks.foldl synchronize countdown).remaining.milliseconds

theorem foldl_synchronize (countdown : Countdown) (ticks : List Instant) :
    ticks.foldl synchronize countdown = after countdown.remaining countdown.previous ticks := by
  induction ticks using List.reverseRecOn with
  | nil => rfl
  | append_singleton before now ih =>
      rw [List.foldl_append, ih]
      exact synchronize_after ..

theorem remainingAfter_eq (countdown : Countdown) (ticks : List Instant) :
    countdown.remainingAfter ticks =
      countdown.remaining.milliseconds - elapsed countdown.previous ticks := by
  rw [remainingAfter, foldl_synchronize]
  rfl

/-- What remains after `synchronize` at any list of instants, in closed form: the start less all
steps forward, down to zero.  With ticks in order that is the time since the previous
synchronization; in any order more is charged, never less, and more ticks in between charge no less.
Zero stays zero. -/
theorem remaining_after_ticks (countdown : Countdown) (ticks : List Instant) :
    (countdown.remainingAfter ticks : Int) =
      max 0 (countdown.remaining.milliseconds - elapsed countdown.previous ticks) ∧
    ((countdown.previous :: ticks).Pairwise (fun earlier later =>
        earlier.milliseconds ≤ later.milliseconds) →
      (countdown.remainingAfter ticks : Int) = max 0 (countdown.remaining.milliseconds -
        ((ticks.getLastD countdown.previous).milliseconds - countdown.previous.milliseconds))) ∧
    (countdown.remainingAfter ticks : Int) ≤ max 0 (countdown.remaining.milliseconds -
      ((ticks.getLastD countdown.previous).milliseconds - countdown.previous.milliseconds)) ∧
    (∀ more, ticks.Sublist more →
      countdown.remainingAfter more ≤ countdown.remainingAfter ticks) ∧
    (countdown.remainingAfter ticks = 0 →
      ∀ later, countdown.remainingAfter (ticks ++ later) = 0) := by
  have span := span_le_elapsed countdown.previous ticks
  have fewer (more : List Instant) (inserted : ticks.Sublist more) :
      countdown.remainingAfter more ≤ countdown.remainingAfter ticks := by
    have longer := elapsed_le_of_sublist inserted countdown.previous
    rw [remainingAfter_eq, remainingAfter_eq]
    omega
  refine ⟨?_, fun ordered => ?_, ?_, fewer, fun finished later => ?_⟩
  · rw [remainingAfter_eq]
    omega
  · have whole := elapsed_of_ordered ordered
    rw [remainingAfter_eq]
    omega
  · rw [remainingAfter_eq]
    omega
  · have none := fewer _ (List.sublist_append_left ticks later)
    omega

end Countdown

end Curfew
