import Curfew.Proofs.Engine.Effect

namespace Curfew

/-! Local dates that are looked up, and what comes of a tracker where one of them is missing. -/

namespace Zone

variable {zone : Zone} {instant : Instant}

theorem localDate?_eq_none_iff : zone.localDate? instant = none ↔ zone.hasDate instant = false := by
  simp [localDate?]

theorem localDate?_eq_some_iff {date : Date} :
    zone.localDate? instant = some date ↔
      zone.hasDate instant = true ∧ zone.localDate instant = date := by
  simp [localDate?]

end Zone

namespace AllowanceTracker

variable {zone : Zone} {daily : Bool} {tracker : AllowanceTracker} {now : Instant}

/-- Where the date of the tracker is asked for, both dates exist. -/
def Dated (zone : Zone) (daily : Bool) (tracker : AllowanceTracker) (now : Instant) : Prop :=
  daily = true → zone.hasDate tracker.previous = true ∧ zone.hasDate now = true

instance : Decidable (tracker.Dated zone daily now) :=
  inferInstanceAs (Decidable (_ → _ ∧ _))

theorem not_dated_iff :
    ¬ tracker.Dated zone daily now ↔
      daily = true ∧ (zone.hasDate tracker.previous = false ∨ zone.hasDate now = false) := by
  unfold Dated
  cases daily <;> simp [imp_iff_or_not, or_comm]

theorem isStale?_eq_none_iff :
    tracker.isStale? zone daily now = none ↔ ¬ tracker.Dated zone daily now := by
  rw [not_dated_iff]
  unfold isStale?
  cases daily with
  | false => simp
  | true =>
      cases before : zone.hasDate tracker.previous <;> cases after : zone.hasDate now <;>
        simp [Zone.localDate?, before, after]

theorem isStale?_of_dated (dated : tracker.Dated zone daily now) :
    tracker.isStale? zone daily now =
      some (daily && zone.localDate tracker.previous != zone.localDate now) := by
  unfold isStale?
  cases daily with
  | false => rfl
  | true =>
      obtain ⟨before, after⟩ := dated rfl
      simp [Zone.localDate?, before, after]

end AllowanceTracker

namespace Engine

variable {zone : Zone} {daily : Bool} {tracker : AllowanceTracker} {engine : Engine} {now : Instant}

theorem synchronizeTracker_of_undated (undated : ¬ tracker.Dated zone daily now) :
    synchronizeTracker zone daily tracker now = (tracker, .error .noLocalDate) := by
  rw [synchronizeTracker, AllowanceTracker.isStale?_eq_none_iff.mpr undated]

theorem synchronizeTracker_of_dated (dated : tracker.Dated zone daily now) :
    synchronizeTracker zone daily tracker now =
      if daily && zone.localDate tracker.previous != zone.localDate now then
        (.full tracker.allowance now, .ok [.refilled tracker.allowance])
      else
        (tracker.synchronize now,
          .ok (if !tracker.isUp && (tracker.synchronize now).isUp then
            [.exhausted tracker.allowance] else [])) := by
  rw [synchronizeTracker, AllowanceTracker.isStale?_of_dated dated]
  cases daily && zone.localDate tracker.previous != zone.localDate now <;> rfl

theorem previous_synchronizeTracker (dated : tracker.Dated zone daily now) :
    (synchronizeTracker zone daily tracker now).1.previous = now := by
  rw [synchronizeTracker_of_dated dated]
  split <;> rfl

theorem allowance_synchronizeTracker (zone : Zone) (daily : Bool) (tracker : AllowanceTracker)
    (now : Instant) : (synchronizeTracker zone daily tracker now).1.allowance = tracker.allowance := by
  unfold synchronizeTracker
  split <;> rfl

/-- An allowance that is refilled daily finds the dates that it asks for. -/
def Dated (zone : Zone) (engine : Engine) (now : Instant) : Prop :=
  ∀ tracker ∈ engine.allowance, tracker.Dated zone engine.resetsDaily now

instance : Decidable (engine.Dated zone now) :=
  inferInstanceAs (Decidable (∀ tracker ∈ engine.allowance, _))

theorem not_dated_iff :
    ¬ engine.Dated zone now ↔
      engine.resetsDaily = true ∧ ∃ tracker, engine.allowance = some tracker ∧
        (zone.hasDate tracker.previous = false ∨ zone.hasDate now = false) := by
  unfold Dated
  cases engine.allowance with
  | none => simp
  | some tracker => simp [AllowanceTracker.not_dated_iff]

/-- `synchronize` fails only for want of a local date. -/
theorem allowanceEvents_eq_error_iff {failure : Failure} :
    engine.allowanceEvents zone now = .error failure ↔
      failure = .noLocalDate ∧ ¬ engine.Dated zone now := by
  unfold allowanceEvents Dated
  cases engine.allowance with
  | none => simp
  | some tracker =>
      simp only [Option.mem_some, forall_eq']
      by_cases dated : tracker.Dated zone engine.resetsDaily now
      · simp only [synchronizeTracker_of_dated dated, dated, not_true, and_false, iff_false]
        split <;> simp
      · simp [synchronizeTracker_of_undated dated, dated, eq_comm]

theorem synchronize_eq_error_iff {failure : Failure} :
    (engine.synchronize zone now).2 = .error failure ↔
      failure = .noLocalDate ∧ ¬ engine.Dated zone now := by
  rw [← allowanceEvents_eq_error_iff, synchronize_eq]
  cases engine.allowanceEvents zone now <;> simp [Except.map]

theorem exists_events (dated : engine.Dated zone now) :
    ∃ events, (engine.synchronize zone now).2 = .ok events := by
  cases told : (engine.synchronize zone now).2 with
  | ok events => exact ⟨events, rfl⟩
  | error failure => exact absurd dated (synchronize_eq_error_iff.mp told).2

theorem dated_of_synchronize {events : List Event}
    (told : (engine.synchronize zone now).2 = .ok events) : engine.Dated zone now := by
  by_contra undated
  rw [synchronize_eq_error_iff.mpr ⟨rfl, undated⟩] at told
  contradiction

/-- A `synchronize` that breaks off has moved the rules on and done nothing else. -/
theorem synchronize_of_undated (undated : ¬ engine.Dated zone now) :
    engine.synchronize zone now =
      ({ engine with rules := engine.rules.synchronize now }, .error .noLocalDate) := by
  have failed := synchronize_eq_error_iff.mpr ⟨rfl, undated⟩
  refine Prod.ext ?_ failed
  obtain ⟨_, tracker, held, _⟩ := not_dated_iff.mp undated
  have lacks : ¬ tracker.Dated zone engine.resetsDaily now := by
    simpa [Dated, held] using undated
  simp [synchronize_eq, held, synchronizeTracker_of_undated lacks]

/-- Which ticks break off is the same after a `synchronize` as before it. -/
theorem dated_synchronize_iff (zone : Zone) (engine : Engine) (earlier later : Instant) :
    (engine.synchronize zone earlier).1.Dated zone later ↔ engine.Dated zone later := by
  by_cases dated : engine.Dated zone earlier
  · unfold Dated at dated ⊢
    rw [synchronize_eq]
    cases held : engine.allowance with
    | none => simp
    | some tracker =>
        have before := dated tracker held
        simp only [Option.map_some, Option.mem_some, forall_eq']
        unfold AllowanceTracker.Dated at before ⊢
        rw [previous_synchronizeTracker before]
        exact imp_congr_right fun daily => by rw [(before daily).1, (before daily).2]
  · rw [synchronize_of_undated dated]
    rfl

end Engine

end Curfew
