import Curfew.Proofs.Countdown
import Curfew.Protector.Basic

namespace Curfew

/-! What holds of a protector whatever happens to it. -/

namespace PleaProtector

@[simp] theorem grace_plead (protector : PleaProtector) (now : Instant) :
    (protector.plead now).1.grace = protector.grace := by
  unfold plead
  split <;> rfl

@[simp] theorem grace_synchronize (protector : PleaProtector) (now : Instant) :
    (protector.synchronize now).grace = protector.grace := by
  unfold synchronize
  split <;> rfl

theorem countdown?_synchronize (protector : PleaProtector) (now : Instant) :
    (protector.synchronize now).countdown? =
      (protector.countdown?.map (·.synchronize now)).filter (!·.isFinished) := by
  obtain ⟨grace, status⟩ := protector
  cases status with
  | activated => rfl
  | deactivated => rfl
  | deactivating countdown =>
      cases finished : (countdown.synchronize now).isFinished <;>
        simp [synchronize, resumed, PleaStatus.settled, countdown?, Option.filter, finished]

end PleaProtector

namespace Protector

/-- A countdown in progress is within the configured duration, and it has not run out unless that
duration is zero. -/
structure Sound (protector : Protector) : Prop where
  bounded : ∀ countdown, protector.countdown? = some countdown →
    countdown.remaining.milliseconds ≤ protector.duration.milliseconds
  unfinished : 0 < protector.duration.milliseconds →
    ∀ countdown, protector.countdown? = some countdown → 0 < countdown.remaining.milliseconds

theorem sound_of_idle {protector : Protector} (idle : protector.countdown? = none) :
    protector.Sound where
  bounded := fun countdown counting => by rw [idle] at counting; contradiction
  unfinished := fun _ countdown counting => by rw [idle] at counting; contradiction

theorem sound_of_full {protector : Protector} {now : Instant}
    (full : protector.countdown? = some ⟨protector.duration, now⟩) : protector.Sound where
  bounded := fun countdown counting => by
    rw [full] at counting
    cases counting
    exact Nat.le_refl _
  unfinished := fun positive countdown counting => by
    rw [full] at counting
    cases counting
    exact positive

theorem sound_of_filter {protector : Protector} {countdown? : Option Countdown}
    (filtered : protector.countdown? = countdown?.filter (!·.isFinished))
    (bounded : ∀ countdown, countdown? = some countdown →
      countdown.remaining.milliseconds ≤ protector.duration.milliseconds) :
    protector.Sound where
  bounded := fun countdown counting => by
    rw [filtered] at counting
    exact bounded countdown (Option.filter_eq_some_iff.mp counting).1
  unfinished := fun _ countdown counting => by
    rw [filtered] at counting
    have running := (Option.filter_eq_some_iff.mp counting).2
    simp only [Bool.not_eq_eq_eq_not, Bool.not_true] at running
    exact Nat.pos_of_ne_zero fun zero =>
      absurd ((Countdown.isFinished_iff countdown).mpr zero) (by simp [running])

@[simp] theorem kind_synchronize (protector : Protector) (now : Instant) :
    (protector.synchronize now).kind = protector.kind := by
  cases protector <;> rfl

@[simp] theorem duration_synchronize (protector : Protector) (now : Instant) :
    (protector.synchronize now).duration = protector.duration := by
  cases protector with
  | timed protector => rfl
  | plea protector => exact protector.grace_synchronize now

theorem countdown?_synchronize (protector : Protector) (now : Instant) :
    (protector.synchronize now).countdown? =
      (protector.countdown?.map (·.synchronize now)).filter (!·.isFinished) := by
  cases protector with
  | timed protector => rfl
  | plea protector => exact protector.countdown?_synchronize now

theorem Sound.synchronize {protector : Protector} (sound : protector.Sound) (now : Instant) :
    (protector.synchronize now).Sound := by
  refine sound_of_filter (protector.countdown?_synchronize now) fun countdown moved => ?_
  obtain ⟨before, counting, rfl⟩ := Option.map_eq_some_iff.mp moved
  have bounded := sound.bounded before counting
  rw [Countdown.synchronize_remaining, duration_synchronize]
  omega

variable {protector : Protector} {earlier later : Instant}

theorem synchronize_synchronize
    (follows : ∀ countdown ∈ protector.countdown?,
      countdown.previous.milliseconds ≤ earlier.milliseconds)
    (ordered : earlier.milliseconds ≤ later.milliseconds) :
    (protector.synchronize earlier).synchronize later = protector.synchronize later := by
  -- A countdown that has run out at the earlier tick is gone at the later one too.
  cases protector with
  | timed timed =>
      obtain ⟨duration, running⟩ := timed
      cases running with
      | none => rfl
      | some countdown =>
          have together := Countdown.synchronize_synchronize (follows countdown rfl) ordered
          cases finished : (countdown.synchronize earlier).isFinished with
          | true =>
              have still := Countdown.isFinished_synchronize finished ordered
              simp [synchronize, TimedProtector.synchronize, TimedProtector.resumed,
                Option.filter, finished, still]
          | false =>
              simp [synchronize, TimedProtector.synchronize, TimedProtector.resumed,
                Option.filter, finished, together]
  | plea plea =>
      obtain ⟨grace, status⟩ := plea
      cases status with
      | activated | deactivated => rfl
      | deactivating countdown =>
          have together := Countdown.synchronize_synchronize (follows countdown rfl) ordered
          cases finished : (countdown.synchronize earlier).isFinished with
          | true =>
              have still := Countdown.isFinished_synchronize finished ordered
              simp [synchronize, PleaProtector.synchronize, PleaProtector.resumed,
                PleaStatus.settled, finished, still]
          | false =>
              simp [synchronize, PleaProtector.synchronize, PleaProtector.resumed,
                PleaStatus.settled, finished, together]

/-- `synchronize` can end a protection and never begins one. -/
theorem protects_of_synchronize {now : Instant}
    (protects : (protector.synchronize now).protects = true) : protector.protects = true := by
  cases protector with
  | timed timed =>
      obtain ⟨duration, running⟩ := timed
      cases running with
      | none => exact protects
      | some countdown => rfl
  | plea plea =>
      obtain ⟨grace, status⟩ := plea
      cases status with
      | deactivated => exact protects
      | activated | deactivating => rfl

theorem previous_of_synchronize {now : Instant} {countdown : Countdown}
    (counting : countdown ∈ (protector.synchronize now).countdown?) :
    countdown.previous = now := by
  rw [countdown?_synchronize] at counting
  obtain ⟨earlier, _, rfl⟩ :=
    Option.map_eq_some_iff.mp (Option.filter_eq_some_iff.mp counting).1
  rfl

end Protector

end Curfew
