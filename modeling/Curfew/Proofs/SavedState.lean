import Curfew.Proofs.Protector
import Curfew.Proofs.Time.Duration
import Curfew.Proofs.Time.Instant
import Curfew.Protector.Saved

namespace Curfew

/-! Saved states are put back only within the bounds of the protector they are put into. -/

section Errors

variable {ε δ α : Type} (f : ε → δ)

theorem mapError_ok (value : α) : (Except.ok value).mapError f = .ok value := rfl

theorem mapError_error (cause : ε) :
    (Except.error cause : Except ε α).mapError f = .error (f cause) := rfl

theorem bind_eq_ok {β : Type} {first : Except ε α} {next : α → Except ε β} {value : β}
    (both : (first >>= next) = .ok value) : ∃ between, first = .ok between ∧
      next between = .ok value := by
  cases first with
  | error cause => contradiction
  | ok between => exact ⟨between, rfl, both⟩

end Errors

namespace SavedCountdown

/-- `restore` accepts a saved countdown exactly if it is not longer than the protector allows and
its instant is readable. -/
theorem restore_eq_ok_iff {saved : SavedCountdown} {duration : Duration}
    {countdown : Countdown} :
    saved.restore duration = .ok countdown ↔
      countdown.remaining.milliseconds = saved.remaining ∧
        saved.remaining ≤ duration.milliseconds ∧
        countdown.previous.milliseconds = saved.previous ∧ countdown.previous.Readable := by
  unfold restore
  cases span : Duration.ofMilliseconds saved.remaining with
  | error cause =>
      simp only [mapError_error, bind, Except.bind, reduceCtorEq, false_iff]
      rintro ⟨same, _⟩
      rw [Duration.ofMilliseconds_eq_ok_iff.mpr same] at span
      contradiction
  | ok remaining =>
      have read := Duration.ofMilliseconds_eq_ok_iff.mp span
      simp only [mapError_ok, bind, Except.bind]
      by_cases long : remaining.milliseconds > duration.milliseconds
      · simp only [if_pos long, throw, throwThe, MonadExceptOf.throw, reduceCtorEq, false_iff]
        rintro ⟨_, fits, _⟩
        omega
      · simp only [if_neg long, pure, Except.pure]
        cases time : Instant.ofMilliseconds saved.previous with
        | error cause =>
            simp only [mapError_error, reduceCtorEq, false_iff]
            rintro ⟨_, _, told⟩
            rw [Instant.ofMilliseconds_eq_ok_iff.mpr told] at time
            contradiction
        | ok previous =>
            obtain ⟨told, inRange⟩ := Instant.ofMilliseconds_eq_ok_iff.mp time
            simp only [mapError_ok, Except.ok.injEq]
            constructor
            · rintro rfl
              exact ⟨read, by omega, told, inRange⟩
            · rintro ⟨sameSpan, _, sameTime, _⟩
              exact Countdown.ext_fields (read.trans sameSpan.symm)
                (Instant.ext_milliseconds (told.trans sameTime.symm))

end SavedCountdown

/-- The instant at which a countdown in progress was synchronized is read back. -/
def Protector.Readable (protector : Protector) : Prop :=
  ∀ countdown, protector.countdown? = some countdown → countdown.previous.Readable

instance (protector : Protector) : Decidable protector.Readable :=
  inferInstanceAs (Decidable (∀ countdown ∈ protector.countdown?, countdown.previous.Readable))

namespace SavedState

variable {state : SavedState} {before after : Protector}

/-- `apply` keeps the kind and the duration of a protector, and leaves a countdown only if it was
restored and has not run out. -/
theorem apply_cases (applied : state.apply before = .ok after) :
    after.kind = before.kind ∧ after.duration = before.duration ∧
      ∃ restored : Option Countdown, after.countdown? = restored.filter (!·.isFinished) ∧
        ∀ countdown, restored = some countdown →
          ∃ saved : SavedCountdown, saved.restore before.duration = .ok countdown := by
  have idle : ∀ countdown, (none : Option Countdown) = some countdown →
      ∃ saved : SavedCountdown, saved.restore before.duration = .ok countdown :=
    fun _ counting => by contradiction
  cases before with
  | timed timed =>
      cases state with
      | idle =>
          cases applied
          exact ⟨rfl, rfl, none, rfl, idle⟩
      | running saved =>
          cases restored : saved.restore timed.duration with
          | error cause => simp [apply, restored, bind, Except.bind] at applied
          | ok countdown =>
              simp only [apply, restored, bind, Except.bind, pure, Except.pure,
                Except.ok.injEq] at applied
              cases applied
              refine ⟨rfl, rfl, some countdown, rfl, fun counting found => ?_⟩
              cases found
              exact ⟨saved, restored⟩
      | activated | deactivating | deactivated => contradiction
  | plea plea =>
      cases state with
      | idle | running => contradiction
      | activated | deactivated =>
          cases applied
          exact ⟨rfl, rfl, none, rfl, idle⟩
      | deactivating saved =>
          cases restored : saved.restore plea.grace with
          | error cause => simp [apply, restored, bind, Except.bind] at applied
          | ok countdown =>
              simp only [apply, restored, bind, Except.bind, pure, Except.pure,
                Except.ok.injEq] at applied
              cases applied
              refine ⟨rfl, rfl, some countdown, ?_, fun counting found => ?_⟩
              · cases finished : countdown.isFinished <;>
                  simp [PleaProtector.resumed, PleaStatus.settled, Protector.countdown?,
                    PleaProtector.countdown?, finished, Option.filter]
              · cases found
                exact ⟨saved, restored⟩

theorem apply_sound (applied : state.apply before = .ok after) : after.Sound := by
  obtain ⟨_, duration, restored, filtered, given⟩ := apply_cases applied
  refine Protector.sound_of_filter filtered fun countdown counting => ?_
  obtain ⟨saved, put⟩ := given countdown counting
  obtain ⟨same, fits, _⟩ := SavedCountdown.restore_eq_ok_iff.mp put
  rw [duration, same]
  exact fits

theorem apply_readable (applied : state.apply before = .ok after) : after.Readable := by
  obtain ⟨_, _, restored, filtered, given⟩ := apply_cases applied
  intro countdown counting
  rw [filtered] at counting
  obtain ⟨saved, put⟩ := given countdown (Option.filter_eq_some_iff.mp counting).1
  exact (SavedCountdown.restore_eq_ok_iff.mp put).2.2.2

def kind : SavedState → ProtectorKind
  | .idle | .running _ => .timed
  | .activated | .deactivating _ | .deactivated => .plea

def countdown? : SavedState → Option SavedCountdown
  | .running saved | .deactivating saved => some saved
  | .idle | .activated | .deactivated => none

/-- The state is one of such a protector, its countdown is not too long and its instant is in range.
-/
structure Fits (state : SavedState) (protector : Protector) : Prop where
  kind : state.kind = protector.kind
  countdown : ∀ saved ∈ state.countdown?, saved.remaining ≤ protector.duration.milliseconds ∧
    Instant.earliest ≤ saved.previous ∧ saved.previous ≤ Instant.latest

end SavedState

structure Countdown.IsAt (countdown : Countdown) (saved : SavedCountdown) : Prop where
  remaining : countdown.remaining.milliseconds = saved.remaining
  previous : countdown.previous.milliseconds = saved.previous

/-- The protector is in the saved state.  A countdown with nothing left is over. -/
inductive Protector.IsIn : Protector → SavedState → Prop where
  | idle {duration : Duration} : IsIn (.timed ⟨duration, none⟩) .idle
  | running {duration : Duration} {countdown : Countdown} {saved : SavedCountdown}
      (isAt : countdown.IsAt saved) (left : saved.remaining ≠ 0) :
      IsIn (.timed ⟨duration, some countdown⟩) (.running saved)
  | runOut {duration : Duration} {saved : SavedCountdown} (spent : saved.remaining = 0) :
      IsIn (.timed ⟨duration, none⟩) (.running saved)
  | activated {grace : Duration} : IsIn (.plea ⟨grace, .activated⟩) .activated
  | deactivating {grace : Duration} {countdown : Countdown} {saved : SavedCountdown}
      (isAt : countdown.IsAt saved) (left : saved.remaining ≠ 0) :
      IsIn (.plea ⟨grace, .deactivating countdown⟩) (.deactivating saved)
  | graceOver {grace : Duration} {saved : SavedCountdown} (spent : saved.remaining = 0) :
      IsIn (.plea ⟨grace, .deactivated⟩) (.deactivating saved)
  | deactivated {grace : Duration} : IsIn (.plea ⟨grace, .deactivated⟩) .deactivated

/-- The protector before and after a saved state for it, if there is one, was applied. -/
inductive Protector.Resumes (before : Protector) : Option SavedState → Protector → Prop where
  | stays {state? : Option SavedState} (misfit : ∀ state ∈ state?, ¬ state.Fits before) :
      Resumes before state? before
  | takes {state : SavedState} {after : Protector} (fits : state.Fits before)
      (duration : after.duration = before.duration) (isIn : after.IsIn state) :
      Resumes before (some state) after

namespace Countdown.IsAt

variable {countdown other : Countdown} {saved : SavedCountdown}

theorem unique (isAt : countdown.IsAt saved) (isToo : other.IsAt saved) : countdown = other :=
  ext_fields (isAt.remaining.trans isToo.remaining.symm)
    (Instant.ext_milliseconds (isAt.previous.trans isToo.previous.symm))

theorem capture (isAt : countdown.IsAt saved) : SavedCountdown.capture countdown = saved := by
  obtain ⟨remaining, previous⟩ := isAt
  cases saved
  cases remaining
  cases previous
  rfl

theorem isFinished_iff (isAt : countdown.IsAt saved) :
    countdown.isFinished = true ↔ saved.remaining = 0 := by
  rw [Countdown.isFinished_iff, isAt.remaining]

end Countdown.IsAt

namespace SavedCountdown

variable {saved : SavedCountdown} {duration : Duration}

theorem exists_restore (short : saved.remaining ≤ duration.milliseconds)
    (notBefore : Instant.earliest ≤ saved.previous) (notAfter : saved.previous ≤ Instant.latest) :
    ∃ countdown, saved.restore duration = .ok countdown ∧ countdown.IsAt saved := by
  have bounded := duration.bounded
  have beforeLeap : Instant.latest ≤ 8210266876799999 + 1000 := by decide
  refine ⟨⟨⟨saved.remaining, by omega⟩, ⟨saved.previous, notBefore, by omega⟩⟩, ?_, rfl, rfl⟩
  exact restore_eq_ok_iff.mpr ⟨rfl, short, rfl, notAfter⟩

theorem of_restore {countdown : Countdown} (restored : saved.restore duration = .ok countdown) :
    countdown.IsAt saved ∧ saved.remaining ≤ duration.milliseconds ∧
      Instant.earliest ≤ saved.previous ∧ saved.previous ≤ Instant.latest := by
  obtain ⟨remaining, short, previous, readable⟩ := restore_eq_ok_iff.mp restored
  refine ⟨⟨remaining, previous⟩, short, ?_, ?_⟩
  · rw [← previous]
    exact countdown.previous.notBefore
  · rw [← previous]
    exact readable

end SavedCountdown

namespace SavedState

variable {state : SavedState} {before after other : Protector} {saved : SavedCountdown}

theorem apply_running (saved : SavedCountdown) (timed : TimedProtector) :
    (running saved).apply (.timed timed) = (saved.restore timed.duration).map fun countdown =>
      .timed (.resumed timed.duration (some countdown)) := by
  cases restored : saved.restore timed.duration <;>
    simp [apply, restored, bind, Except.bind, pure, Except.pure, Except.map]

theorem apply_deactivating (saved : SavedCountdown) (plea : PleaProtector) :
    (deactivating saved).apply (.plea plea) = (saved.restore plea.grace).map fun countdown =>
      .plea (.resumed plea.grace (.deactivating countdown)) := by
  cases restored : saved.restore plea.grace <;>
    simp [apply, restored, bind, Except.bind, pure, Except.pure, Except.map]

theorem Fits.exists_apply (fits : state.Fits before) : ∃ after, state.apply before = .ok after := by
  obtain ⟨kind, countdown⟩ := fits
  cases before with
  | timed timed =>
      cases state with
      | idle => exact ⟨_, rfl⟩
      | running saved =>
          obtain ⟨short, notBefore, notAfter⟩ := countdown saved rfl
          obtain ⟨countdown, restored, _⟩ := saved.exists_restore short notBefore notAfter
          exact ⟨_, by rw [apply_running]; exact congrArg (Except.map _) restored⟩
      | activated | deactivating | deactivated => contradiction
  | plea plea =>
      cases state with
      | activated | deactivated => exact ⟨_, rfl⟩
      | deactivating saved =>
          obtain ⟨short, notBefore, notAfter⟩ := countdown saved rfl
          obtain ⟨countdown, restored, _⟩ := saved.exists_restore short notBefore notAfter
          exact ⟨_, by rw [apply_deactivating]; exact congrArg (Except.map _) restored⟩
      | idle | running => contradiction

theorem of_apply (applied : state.apply before = .ok after) :
    state.Fits before ∧ after.IsIn state := by
  cases before with
  | timed timed =>
      cases state with
      | idle =>
          cases applied
          exact ⟨⟨rfl, fun _ counting => by contradiction⟩, .idle⟩
      | running saved =>
          rw [apply_running] at applied
          cases restored : saved.restore timed.duration with
          | error cause => simp [restored, Except.map] at applied
          | ok countdown =>
              rw [restored] at applied
              cases applied
              obtain ⟨isAt, bounds⟩ := SavedCountdown.of_restore restored
              refine ⟨⟨rfl, fun _ counting => by cases counting; exact bounds⟩, ?_⟩
              by_cases spent : saved.remaining = 0
              · simpa [TimedProtector.resumed, Option.filter, isAt.isFinished_iff.mpr spent]
                  using Protector.IsIn.runOut spent
              · have left := Bool.eq_false_iff.mpr (mt isAt.isFinished_iff.mp spent)
                simpa [TimedProtector.resumed, Option.filter, left]
                  using Protector.IsIn.running isAt spent
      | activated | deactivating | deactivated => contradiction
  | plea plea =>
      cases state with
      | activated =>
          cases applied
          exact ⟨⟨rfl, fun _ counting => by contradiction⟩, .activated⟩
      | deactivated =>
          cases applied
          exact ⟨⟨rfl, fun _ counting => by contradiction⟩, .deactivated⟩
      | deactivating saved =>
          rw [apply_deactivating] at applied
          cases restored : saved.restore plea.grace with
          | error cause => simp [restored, Except.map] at applied
          | ok countdown =>
              rw [restored] at applied
              cases applied
              obtain ⟨isAt, bounds⟩ := SavedCountdown.of_restore restored
              refine ⟨⟨rfl, fun _ counting => by cases counting; exact bounds⟩, ?_⟩
              by_cases spent : saved.remaining = 0
              · simpa [PleaProtector.resumed, PleaStatus.settled, isAt.isFinished_iff.mpr spent]
                  using Protector.IsIn.graceOver spent
              · have left := Bool.eq_false_iff.mpr (mt isAt.isFinished_iff.mp spent)
                simpa [PleaProtector.resumed, PleaStatus.settled, left]
                  using Protector.IsIn.deactivating isAt spent
      | idle | running => contradiction

theorem Fits.congr (fits : state.Fits before) (kind : after.kind = before.kind)
    (duration : after.duration = before.duration) : state.Fits after :=
  ⟨fits.kind.trans kind.symm, fun saved counting => duration ▸ fits.countdown saved counting⟩

end SavedState

theorem Protector.IsIn.unique {state : SavedState} {protector other : Protector}
    (isIn : protector.IsIn state) (isToo : other.IsIn state)
    (duration : protector.duration = other.duration) : protector = other := by
  cases isIn with
  | idle | activated | deactivated =>
      cases isToo
      cases duration
      rfl
  | running isAt left =>
      cases isToo with
      | running isAtToo =>
          cases isAt.unique isAtToo
          cases duration
          rfl
      | runOut spent => exact absurd spent left
  | runOut spent =>
      cases isToo with
      | running isAt left => exact absurd spent left
      | runOut =>
          cases duration
          rfl
  | deactivating isAt left =>
      cases isToo with
      | deactivating isAtToo =>
          cases isAt.unique isAtToo
          cases duration
          rfl
      | graceOver spent => exact absurd spent left
  | graceOver spent =>
      cases isToo with
      | deactivating isAt left => exact absurd spent left
      | graceOver =>
          cases duration
          rfl

theorem Protector.Resumes.isIn {state : SavedState} {before after : Protector}
    (resumes : before.Resumes (some state) after) (fits : state.Fits before) :
    after.IsIn state := by
  cases resumes with
  | stays misfit => exact absurd fits (misfit state rfl)
  | takes _ _ isIn => exact isIn

theorem Protector.IsIn.capture {state : SavedState} {protector : Protector}
    (isIn : protector.IsIn state) (left : ∀ saved ∈ state.countdown?, saved.remaining ≠ 0) :
    SavedState.capture protector = state := by
  cases isIn with
  | idle | activated | deactivated => rfl
  | running isAt => exact congrArg SavedState.running isAt.capture
  | deactivating isAt => exact congrArg SavedState.deactivating isAt.capture
  | runOut spent | graceOver spent => exact absurd spent (left _ rfl)

namespace SavedState

variable {state : SavedState} {before after : Protector}

/-- `apply` of what `capture` gives restores a sound protector in one of the same kind and duration.
-/
theorem apply_capture {protector : Protector} (sound : protector.Sound)
    (positive : 0 < protector.duration.milliseconds) (readable : protector.Readable)
    {fresh : Protector} (kind : fresh.kind = protector.kind)
    (duration : fresh.duration = protector.duration) :
    (capture protector).apply fresh = .ok protector := by
  -- A captured countdown passes every check, and it is not dropped as one that has run out.
  have putBack (countdown : Countdown) (counting : protector.countdown? = some countdown) :
      (SavedCountdown.capture countdown).restore fresh.duration = .ok countdown ∧
        countdown.isFinished = false := by
    have bounded := sound.bounded countdown counting
    rw [← duration] at bounded
    have unfinished := sound.unfinished positive countdown counting
    refine ⟨SavedCountdown.restore_eq_ok_iff.mpr ⟨rfl, bounded, rfl, readable _ counting⟩, ?_⟩
    rw [Bool.eq_false_iff]
    intro finished
    have zero := (Countdown.isFinished_iff countdown).mp finished
    omega
  cases protector with
  | timed timed =>
      cases fresh with
      | plea plea => contradiction
      | timed other =>
          obtain ⟨span, running⟩ := timed
          obtain ⟨_, _⟩ := other
          cases duration
          cases running with
          | none => rfl
          | some countdown =>
              obtain ⟨restored, unfinished⟩ := putBack countdown rfl
              change (SavedCountdown.capture countdown).restore span = _ at restored
              simp [capture, apply, restored, TimedProtector.resumed, unfinished, bind,
                Except.bind, pure, Except.pure, Option.filter]
  | plea plea =>
      cases fresh with
      | timed timed => contradiction
      | plea other =>
          obtain ⟨grace, status⟩ := plea
          obtain ⟨_, _⟩ := other
          cases duration
          cases status with
          | activated | deactivated => rfl
          | deactivating countdown =>
              obtain ⟨restored, unfinished⟩ := putBack countdown rfl
              change (SavedCountdown.capture countdown).restore grace = _ at restored
              simp [capture, apply, restored, PleaProtector.resumed, PleaStatus.settled,
                unfinished, bind, Except.bind, pure, Except.pure]

theorem apply_capture_ne_ok {protector fresh : Protector} (unreadable : ¬ protector.Readable)
    (after : Protector) : (capture protector).apply fresh ≠ .ok after := by
  have refused {countdown : Countdown} (counting : protector.countdown? = some countdown)
      (duration : Duration) (restored : Countdown) :
      (SavedCountdown.capture countdown).restore duration ≠ .ok restored := by
    intro put
    obtain ⟨_, _, same, readable⟩ := SavedCountdown.restore_eq_ok_iff.mp put
    refine unreadable fun other there => ?_
    cases counting.symm.trans there
    exact Instant.ext_milliseconds same ▸ readable
  intro applied
  obtain timed | plea := protector
  · obtain ⟨span, _ | countdown⟩ := timed
    · exact unreadable fun _ counting => by contradiction
    · obtain other | other := fresh
      · obtain ⟨restored, put, _⟩ := bind_eq_ok applied
        exact refused rfl _ _ put
      · contradiction
  · obtain ⟨grace, _ | countdown | _⟩ := plea
    · exact unreadable fun _ counting => by contradiction
    · obtain other | other := fresh
      · contradiction
      · obtain ⟨restored, put, _⟩ := bind_eq_ok applied
        exact refused rfl _ _ put
    · exact unreadable fun _ counting => by contradiction

end SavedState

end Curfew
