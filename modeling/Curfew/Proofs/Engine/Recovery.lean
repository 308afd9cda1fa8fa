import Curfew.Proofs.Engine.Restoration

namespace Curfew

/-! An engine that begins with what it can use of an earlier one.  What was saved goes on as far as
it fits, and everything else is as configured. -/

namespace AllowancePolicy

variable {zone : Zone} {terms : AllowancePolicy} {now : Instant} {saved : AllowanceTracker}
  {saved? read? : Option AllowanceTracker}

/-- A saved tracker that is resumed: it is for the configured allowance and, if that is refilled
daily, of the same local date. -/
structure GoesOn (zone : Zone) (terms : AllowancePolicy) (now : Instant)
    (saved : AllowanceTracker) : Prop where
  allowance : saved.allowance = terms.daily
  date : terms.resetDaily = true → zone.localDate saved.previous = zone.localDate now

/-- The tracker that a new engine begins with, as it follows from what was saved. -/
structure Begins (zone : Zone) (terms : AllowancePolicy) (now : Instant)
    (saved? : Option AllowanceTracker) (tracker : AllowanceTracker) : Prop where
  allowance : tracker.allowance = terms.daily
  previous : tracker.previous = now
  kept : ∀ saved ∈ saved?, terms.GoesOn zone now saved → tracker.remaining = saved.remaining
  full : (∀ saved ∈ saved?, ¬ terms.GoesOn zone now saved) → tracker.remaining = terms.daily

theorem Begins.eq_full {tracker : AllowanceTracker}
    (begins : terms.Begins zone now saved? tracker)
    (fresh : ∀ saved ∈ saved?, ¬ terms.GoesOn zone now saved) :
    tracker = .full terms.daily now := by
  obtain ⟨allowance, remaining, previous⟩ := tracker
  cases begins.allowance
  cases begins.previous
  cases begins.full fresh
  rfl

/-- What the store has read of what is saved in it: the saved tracker, or the fallback where nothing
usable is saved. -/
def IsReadOf (terms : AllowancePolicy) (now : Instant) (saved? read? : Option AllowanceTracker) :
    Prop :=
  (∀ saved ∈ saved?, saved.remaining.milliseconds ≤ saved.allowance.milliseconds) ∧
    (read? = saved? ∨ saved? = none ∧ read? = some (.full terms.daily now))

theorem begins_full (fresh : ∀ saved ∈ saved?, ¬ terms.GoesOn zone now saved) :
    terms.Begins zone now saved? (.full terms.daily now) :=
  ⟨rfl, rfl, fun saved given goesOn => absurd goesOn (fresh saved given), fun _ => rfl⟩

theorem begins_initialTracker_some (bounded : saved.remaining.milliseconds ≤
      saved.allowance.milliseconds) (dated : ¬ terms.LacksDate zone now (some saved)) :
    terms.Begins zone now (some saved) (terms.initialTracker zone now (some saved)) := by
  have fits : ¬ saved.remaining.milliseconds > saved.allowance.milliseconds := Nat.not_lt.mpr bounded
  rw [initialTracker, initialTracker?, if_neg fits]
  by_cases same : saved.allowance = terms.daily
  · have within : saved.Within terms := ⟨same, same ▸ bounded⟩
    have dates := not_not.mp (mt (lacksDate_iff_of_within within).mpr dated)
    rw [if_neg (not_not_intro same), AllowanceTracker.isStale?_of_dated dates, Option.map_some,
      Option.getD_some]
    by_cases renewed : (terms.resetDaily &&
        zone.localDate saved.previous != zone.localDate now) = true
    · rw [if_pos renewed, AllowanceTracker.reset, same]
      refine begins_full fun other given goesOn => ?_
      cases given
      simp only [Bool.and_eq_true, bne_iff_ne] at renewed
      exact renewed.2 (goesOn.date renewed.1)
    · rw [if_neg renewed]
      refine ⟨same, rfl, fun other given _ => by cases given; rfl, fun none => ?_⟩
      refine absurd ⟨same, fun daily => ?_⟩ (none saved rfl)
      simpa [daily] using renewed
  · rw [if_pos same]
    refine begins_full fun other given goesOn => ?_
    cases given
    exact same goesOn.allowance

theorem begins_initialTracker (isRead : terms.IsReadOf now saved? read?)
    (dated : ¬ terms.LacksDate zone now read?) :
    terms.Begins zone now saved? (terms.initialTracker zone now read?) := by
  obtain ⟨bounded, rfl | ⟨rfl, rfl⟩⟩ := isRead
  · cases read? with
    | none => exact begins_full fun _ missing => by contradiction
    | some saved => exact begins_initialTracker_some (bounded saved rfl) dated
  · -- A full allowance that has been read counts from now on, whether it is refilled or resumed.
    have begins := @begins_initialTracker_some zone terms now (.full terms.daily now)
      (Nat.le_refl _) dated
    have full : (terms.initialTracker zone now (some (.full terms.daily now))).remaining =
        terms.daily := by
      by_cases goesOn : terms.GoesOn zone now (.full terms.daily now)
      · exact begins.kept _ rfl goesOn
      · exact begins.full fun other given => by
          cases given
          exact goesOn
    exact ⟨begins.allowance, begins.previous, fun _ missing => by contradiction, fun _ => full⟩

/-- The local dates exist that the saved tracker has to be compared by. -/
def HasDates (zone : Zone) (terms : AllowancePolicy) (now : Instant)
    (saved? : Option AllowanceTracker) : Prop :=
  terms.resetDaily = true → zone.hasDate now = true ∧
    ∀ saved ∈ saved?, saved.allowance = terms.daily → zone.hasDate saved.previous = true

theorem not_lacksDate_of_hasDates (isRead : terms.IsReadOf now saved? read?)
    (dates : terms.HasDates zone now saved?) : ¬ terms.LacksDate zone now read? := by
  rintro ⟨daily, tracker, given, _, same, missing⟩
  obtain ⟨today, saved⟩ := dates daily
  obtain ⟨_, rfl | ⟨_, rfl⟩⟩ := isRead
  · simp [today, saved tracker given same] at missing
  · cases given
    simp [today, AllowanceTracker.full, AllowanceTracker.previous] at missing

theorem lacksDate_of_saved (isRead : terms.IsReadOf now saved? read?) (given : saved ∈ saved?)
    (daily : terms.resetDaily = true) (same : saved.allowance = terms.daily)
    (missing : zone.hasDate saved.previous = false) : terms.LacksDate zone now read? := by
  obtain ⟨bounded, rfl | ⟨rfl, _⟩⟩ := isRead
  · exact ⟨daily, saved, given, bounded saved given, same, .inl missing⟩
  · cases given

end AllowancePolicy

namespace Engine

variable {engine : Engine} {policy : Policy} {zone : Zone} {now : Instant}
  {saved? read? : Option AllowanceTracker} {states? restored? : Option SavedStates}

/-- The engine has taken up what was saved as far as it fits, and is as configured apart from that.
-/
structure Recovers (zone : Zone) (policy : Policy) (now : Instant)
    (saved? : Option AllowanceTracker) (states? : Option SavedStates) (engine : Engine) : Prop where
  allowance : Option.Rel (fun tracker terms => terms.Begins zone now saved? tracker)
    engine.allowance policy.allowance
  rules : ∀ id, Option.Rel (fun (rule : Rule) (rulePolicy : RulePolicy) =>
      rule.activator = rulePolicy.activator ∧
        (rulePolicy.initialProtector now).Resumes (states?.bind (·.get? id)) rule.protector)
    (engine.rule? id) (policy.rule? id)

theorem Recovers.exists_tracker {terms : AllowancePolicy}
    (recovers : engine.Recovers zone policy now saved? states?)
    (configured : policy.allowance = some terms) :
    ∃ tracker, engine.allowance = some tracker ∧ terms.Begins zone now saved? tracker := by
  have related := recovers.allowance
  rw [configured] at related
  generalize engine.allowance = held at related ⊢
  cases related with
  | some begins => exact ⟨_, rfl, begins⟩

theorem Recovers.exists_rule {id : String} {rulePolicy : RulePolicy}
    (recovers : engine.Recovers zone policy now saved? states?)
    (configured : policy.rule? id = some rulePolicy) :
    ∃ protector, engine.rule? id = some ⟨rulePolicy.activator, protector⟩ ∧
      (rulePolicy.initialProtector now).Resumes (states?.bind (·.get? id)) protector := by
  have related := recovers.rules id
  rw [configured] at related
  generalize engine.rule? id = held at related ⊢
  cases related with
  | @some rule _ resumed =>
      obtain ⟨activator, protector⟩ := rule
      obtain ⟨rfl, resumes⟩ := resumed
      exact ⟨protector, rfl, resumes⟩

/-- The engine after `restore` of the states that were read, if any were. -/
def taking (engine : Engine) (restored? : Option SavedStates) : Engine :=
  restored?.elim engine fun states => (engine.restore states).1

theorem allowance_taking (engine : Engine) (restored? : Option SavedStates) :
    (engine.taking restored?).allowance = engine.allowance := by
  cases restored? <;> rfl

theorem rel_taking (engine : Engine) (restored? : Option SavedStates) (id : String) :
    Option.Rel (fun rule next : Rule => next.activator = rule.activator ∧
        rule.protector.Resumes (restored?.bind (·.get? id)) next.protector)
      (engine.rule? id) ((engine.taking restored?).rule? id) := by
  cases restored? with
  | some states => exact rel_restore engine states id
  | none =>
      change Option.Rel _ (engine.rule? id) (engine.rule? id)
      cases engine.rule? id with
      | none => exact .none
      | some rule => exact .some ⟨rfl, .stays fun _ missing => by contradiction⟩

theorem within_taking : Option.Rel AllowanceTracker.Within
    ((initial zone policy read? now).taking restored?).allowance policy.allowance := by
  rw [allowance_taking, initial]
  cases policy.allowance with
  | none => exact .none
  | some terms => exact .some (terms.within_initialTracker zone now read?)

theorem recovers_taking (distinct : (policy.rules.map (·.id)).Nodup)
    (tracker : ∀ terms ∈ policy.allowance, terms.IsReadOf now saved? read?)
    (dated : ¬ policy.LacksDate zone read? now)
    (states : restored? = states? ∨ states? = none ∧ restored? = some .empty) :
    ((initial zone policy read? now).taking restored?).Recovers zone policy now saved? states? where
  allowance := by
    rw [allowance_taking, initial]
    cases given : policy.allowance with
    | none => exact .none
    | some terms =>
        exact .some (AllowancePolicy.begins_initialTracker (tracker terms given) fun lacks =>
          dated ⟨terms, given, lacks⟩)
  rules id := by
    have related := rel_taking (initial zone policy read? now) restored? id
    have alike : restored?.bind (·.get? id) = states?.bind (·.get? id) := by
      rcases states with rfl | ⟨rfl, rfl⟩ <;> rfl
    rw [rule?_initial distinct, alike] at related
    generalize Engine.rule? _ id = after at related ⊢
    cases configured : policy.rule? id with
    | none =>
        rw [configured] at related
        cases related
        exact .none
    | some rulePolicy =>
        rw [configured] at related
        cases related with
        | some resumed => exact .some resumed

end Engine

end Curfew
