import Curfew.Proofs.Engine.WellFormed
import Curfew.Proofs.Store.Basic
import Curfew.Service.Start

namespace Curfew

/-! What a service that has started can rely on. -/

/-- The stores of a service on disks of one kind: each is `Reliable`, and neither write touches the
other store. -/
structure Stores.Reliable (stores : Stores) (kind : Disk → Prop)
    (allowanceAdmits statesAdmits : Option Disk.Fault → Bool) : Prop where
  states : stores.states.Reliable kind statesAdmits
  statesCodec : stores.states.codec = .savedStates
  allowance : ∀ store ∈ stores.allowance, store.Reliable kind allowanceAdmits
  allowanceCodec : ∀ store ∈ stores.allowance, ∃ daily now, store.codec = .allowance daily now
  sparesStates : ∀ store ∈ stores.allowance, store.Spares stores.states kind
  sparesAllowance : ∀ store ∈ stores.allowance, stores.states.Spares store kind

namespace Stores

/-- The stores are reliable on the disk as it is and as it will be when only they are used. -/
def ReliableOn (stores : Stores) (disk : Disk) : Prop :=
  ∃ kind allowanceAdmits statesAdmits,
    stores.Reliable kind allowanceAdmits statesAdmits ∧ kind disk

variable {kind : Disk → Prop} {allowanceAdmits statesAdmits : Option Disk.Fault → Bool}
  {allowance : Store AllowanceTracker AllowanceRecordError}
  {states : Store SavedStates Codec.StatesError}

theorem reliable_alone (reliable : states.Reliable kind statesAdmits)
    (codec : states.codec = .savedStates) :
    Reliable ⟨none, states⟩ kind (fun _ => false) statesAdmits := by
  refine ⟨reliable, codec, ?_, ?_, ?_, ?_⟩
  all_goals
    intro store member
    contradiction

theorem reliable_both (reliable : states.Reliable kind statesAdmits)
    (codec : states.codec = .savedStates) (reliableToo : allowance.Reliable kind allowanceAdmits)
    (codecToo : ∃ daily now, allowance.codec = .allowance daily now)
    (sparesStates : allowance.Spares states kind) (sparesAllowance : states.Spares allowance kind) :
    Reliable ⟨some allowance, states⟩ kind allowanceAdmits statesAdmits := by
  refine ⟨reliable, codec, ?_, ?_, ?_, ?_⟩
  all_goals
    intro store member
    obtain rfl : allowance = store := Option.some.inj member
    assumption

end Stores

namespace Start

variable {α β ε : Type} {trace : Trace} {first : Start α} {next : α → Start β}
  {post : β → Trace → Prop}

/-- The condition on value and trace after a part of the start that succeeds. -/
def Ensures (start : Start α) (trace : Trace) (post : α → Trace → Prop) : Prop :=
  ∀ value after, start.run trace = (.ok value, after) → post value after

theorem Ensures.bind {middle : α → Trace → Prop} (start : Ensures first trace middle)
    (rest : ∀ value between, middle value between → Ensures (next value) between post) :
    Ensures (first >>= next) trace post := by
  intro result last ran
  rw [ExceptT.run_bind] at ran
  change StateT.bind first.run _ trace = _ at ran
  unfold StateT.bind at ran
  cases begun : first.run trace with
  | mk outcome between =>
      simp only [begun] at ran
      cases outcome with
      | ok value => exact rest value between (start value between begun) result last ran
      | error reason => cases ran

theorem ensures_pure {value : β} (holds : post value trace) :
    Ensures (pure value) trace post := by
  intro result last ran
  cases ran
  exact holds

theorem ensures_throw {reason : StartError} : Ensures (throw reason) trace post := by
  intro result last ran
  cases ran

theorem ensures_tell_bind {notice : Notice} {next : Unit → Start β}
    (rest : ∀ between : Trace, between.disk = trace.disk → Ensures (next ()) between post) :
    Ensures (tell notice >>= next) trace post := rest (trace.tell [notice]) rfl

theorem ensures_get_bind {next : Trace → Start β} (rest : Ensures (next trace) trace post) :
    Ensures (get >>= next) trace post := rest

theorem ensures_set_bind {other : Trace} {next : PUnit → Start β}
    (rest : Ensures (next ⟨⟩) other post) : Ensures (set other >>= next) trace post := rest

theorem ensures_loadConfig (setup : Setup) :
    Ensures (loadConfig setup) trace fun _ after => after.disk = trace.disk := by
  unfold loadConfig
  refine ensures_get_bind ?_
  split
  · exact ensures_throw
  · split
    · exact ensures_throw
    · exact ensures_tell_bind fun _ same => ensures_pure same

theorem ensures_makeDataDirectory (numbered : trace.disk.Numbered) (path : String) :
    Ensures (makeDataDirectory path) trace fun _ after =>
      after.disk.Numbered ∧ ∃ location, after.disk.Reaches path location := by
  unfold makeDataDirectory
  refine ensures_get_bind ?_
  cases made : Disk.runSteps none trace.disk (trace.disk.directorySteps path) with
  | mk disk outcome =>
      have stillNumbered : disk.Numbered := by
        have after := numbered.directorySteps path
        rwa [made] at after
      refine ensures_set_bind ?_
      cases outcome with
      | ok _ => exact ensures_pure ⟨stillNumbered, Disk.reaches_of_directorySteps made⟩
      | error _ => exact ensures_throw

theorem ensures_openDatabase (path key : String) (codec : Codec α ε) :
    Ensures (openDatabase path key codec) trace fun store after =>
      ∃ handle, trace.disk.openDatabase path = (after.disk, some handle) ∧
        store = .database ⟨handle, key, codec⟩ := by
  unfold openDatabase DatabaseStore.open?
  refine ensures_get_bind ?_
  cases opened : trace.disk.openDatabase path with
  | mk disk handle? =>
      cases handle? with
      | none => exact ensures_set_bind ensures_throw
      | some handle => exact ensures_set_bind (ensures_pure ⟨handle, rfl, rfl⟩)

theorem isIn_allowanceFile (directory : String) (daily : Duration) (now : Instant) :
    FileStore.IsIn ⟨Setup.allowanceFile directory, .allowance daily now⟩ directory
      "allowance.json" :=
  ⟨rfl, by decide, by decide⟩

theorem isIn_statesFile (directory : String) :
    FileStore.IsIn ⟨Setup.statesFile directory, .savedStates⟩ directory "protectors.json" :=
  ⟨rfl, by decide, by decide⟩

theorem reliable_fileStores {disk : Disk} {directory : String} {location : Location}
    (reaches : disk.Reaches directory location) (daily : Option Duration) (now : Instant) :
    (fileStores directory daily now).allowance.isSome = daily.isSome ∧
      (fileStores directory daily now).ReliableOn disk := by
  have states := isIn_statesFile directory
  have reliable := Store.reliable_file states reaches
  cases daily with
  | none => exact ⟨rfl, _, _, _, Stores.reliable_alone reliable rfl, .refl disk⟩
  | some daily =>
      have allowance := isIn_allowanceFile directory daily now
      exact ⟨rfl, _, _, _, Stores.reliable_both reliable rfl
        (Store.reliable_file allowance reaches) ⟨daily, now, rfl⟩
        (Store.spares_file allowance states reaches (by decide) (by decide))
        (Store.spares_file states allowance reaches (by decide) (by decide)), .refl disk⟩

theorem ensures_databaseStores (numbered : trace.disk.Numbered) (path : String)
    (daily : Option Duration) (now : Instant) :
    Ensures (databaseStores path daily now) trace fun stores after =>
      stores.allowance.isSome = daily.isSome ∧ stores.ReliableOn after.disk := by
  unfold databaseStores
  cases daily with
  | none =>
      rw [Option.mapM_none, pure_bind]
      refine (ensures_openDatabase path "protectors" _).bind fun states after opened => ?_
      obtain ⟨handle, opened, rfl⟩ := opened
      obtain ⟨changeable, keeps⟩ := Disk.keeps_of_openDatabase numbered opened
      exact ensures_pure ⟨rfl, _, _, _,
        Stores.reliable_alone (Store.reliable_database (.head _)) rfl, keeps⟩
  | some daily =>
      rw [Option.mapM_some, bind_map_left]
      refine (ensures_openDatabase path "allowance" _).bind fun allowance between opened => ?_
      refine (ensures_openDatabase path "protectors" _).bind fun states after reopened => ?_
      obtain ⟨handle, opened, rfl⟩ := opened
      obtain ⟨again, reopened, rfl⟩ := reopened
      obtain ⟨different, changeable, keeps⟩ :=
        Disk.keeps_of_openDatabase_again numbered opened reopened
      have first : handle ∈ [handle, again] := .head _
      have second : again ∈ [handle, again] := .tail _ (.head _)
      exact ensures_pure ⟨rfl, _, _, _,
        Stores.reliable_both (Store.reliable_database second) rfl (Store.reliable_database first)
          ⟨daily, now, rfl⟩ (Store.spares_database first second different
            (show "allowance" ≠ "protectors" by decide))
          (Store.spares_database second first different.symm
            (show "protectors" ≠ "allowance" by decide)), keeps⟩

theorem ensures_health {stores : Stores} {given : Bool}
    (opened : stores.allowance.isSome = given ∧ stores.ReliableOn trace.disk) :
    Ensures (do
      let state ← get
      if isHealthy stores state.disk then pure stores
      else do
        tell .storeUnhealthy
        pure stores) trace fun stores after =>
          stores.allowance.isSome = given ∧ stores.ReliableOn after.disk := by
  refine ensures_get_bind ?_
  split
  · exact ensures_pure opened
  · refine ensures_tell_bind fun between same => ensures_pure ?_
    rw [same]
    exact opened

theorem ensures_openStores (numbered : trace.disk.Numbered) {directory : String}
    {location : Location} (reaches : trace.disk.Reaches directory location) (policy : Policy)
    (now : Instant) :
    Ensures (openStores policy directory now) trace fun stores after =>
      stores.allowance.isSome = policy.allowance.isSome ∧ stores.ReliableOn after.disk := by
  rw [← Option.isSome_map (f := fun terms : AllowancePolicy => terms.daily)]
  unfold openStores
  dsimp only
  split
  -- Once it is told that there is no allowance, both cases go on in the same way.
  on_goal 1 =>
    refine ensures_tell_bind fun between same => ?_
    rw [← same] at numbered reaches
  all_goals
    cases policy.daemon.storage with
    | file =>
        refine ensures_tell_bind fun later unchanged => ?_
        rw [pure_bind]
        exact ensures_health (reliable_fileStores (unchanged ▸ reaches) _ now)
    | sqlite =>
        dsimp only
        refine (ensures_databaseStores numbered _ _ now).bind fun stores after opened => ?_
        refine ensures_tell_bind fun later unchanged => ?_
        rw [pure_bind]
        exact ensures_health (unchanged ▸ opened)

theorem ensures_readAllowance {stores : Stores} (reliable : stores.ReliableOn trace.disk) :
    Ensures (readAllowance stores) trace fun _ after => stores.ReliableOn after.disk := by
  obtain ⟨kind, allowanceAdmits, statesAdmits, reliable, held⟩ := reliable
  unfold readAllowance
  split
  · exact ensures_pure ⟨kind, _, _, reliable, held⟩
  · rename_i store given
    have still := (reliable.allowance store given).read held
    refine ensures_get_bind ?_
    cases read : store.read trace.disk with
    | mk disk outcome =>
        rw [read] at still
        refine ensures_set_bind ?_
        cases outcome
        all_goals
          refine ensures_tell_bind fun after same => ensures_pure ⟨kind, _, _, reliable, ?_⟩
          rw [same]
          exact still

theorem ensures_restoreStates {stores : Stores} (reliable : stores.ReliableOn trace.disk)
    (engine : Engine) :
    Ensures (restoreStates stores engine) trace fun restored after =>
      restored.allowance = engine.allowance ∧ stores.ReliableOn after.disk := by
  obtain ⟨kind, allowanceAdmits, statesAdmits, reliable, held⟩ := reliable
  have still := reliable.states.read held
  unfold restoreStates
  refine ensures_get_bind ?_
  cases read : stores.states.read trace.disk with
  | mk disk outcome =>
      rw [read] at still
      refine ensures_set_bind ?_
      cases outcome with
      | ok states => exact ensures_pure ⟨rfl, kind, _, _, reliable, still⟩
      | error reason =>
          refine ensures_tell_bind fun after same => ensures_pure ⟨rfl, kind, _, _, reliable, ?_⟩
          rw [same]
          exact still

end Start

namespace Service

/-- The stores of the service are reliable, and its engine has the allowance of the policy. -/
structure Sound (service : Service) (kind : Disk → Prop)
    (allowanceAdmits statesAdmits : Option Disk.Fault → Bool) (terms : Option AllowancePolicy) :
    Prop where
  stores : service.stores.Reliable kind allowanceAdmits statesAdmits
  given : service.stores.allowance.isSome = terms.isSome
  within : Option.Rel AllowanceTracker.Within service.engine.allowance terms

/-- `Service.start` gives a sound service, whatever was saved and whatever is on the disk. -/
theorem sound_of_start {zone : Zone} {setup : Setup} {now : Instant} {trace begun : Trace}
    {service : Service} (numbered : trace.disk.Numbered)
    (started : Service.start zone setup now trace = (.ok service, begun)) :
    ∃ kind allowanceAdmits statesAdmits terms,
      service.Sound kind allowanceAdmits statesAdmits terms ∧ kind begun.disk := by
  have ensured : Start.Ensures (Start.service zone setup now) trace fun service after =>
      ∃ kind allowanceAdmits statesAdmits terms,
        service.Sound kind allowanceAdmits statesAdmits terms ∧ kind after.disk := by
    unfold Start.service
    refine (Start.ensures_loadConfig setup).bind fun policy loaded same => ?_
    rw [← same] at numbered
    refine (Start.ensures_makeDataDirectory numbered _).bind fun _ made there => ?_
    obtain ⟨numbered, location, reaches⟩ := there
    refine (Start.ensures_openStores numbered reaches policy now).bind fun stores opened both => ?_
    obtain ⟨given, reliable⟩ := both
    refine (Start.ensures_readAllowance reliable).bind fun saved read reliable => ?_
    split
    · exact Start.ensures_throw
    · exact Start.ensures_throw
    · rename_i engine built
      obtain ⟨addable, _, rfl⟩ := Engine.ofPolicy_eq_ok_iff.mp built
      refine (Start.ensures_restoreStates reliable _).bind fun engine restored both => ?_
      obtain ⟨allowance, kind, allowanceAdmits, statesAdmits, reliable, held⟩ := both
      refine Start.ensures_pure ⟨kind, _, _, policy.allowance, ⟨reliable, given, ?_⟩, held⟩
      rw [allowance]
      exact (Engine.wellFormed_initial addable).allowance
  exact ensured service begun started

end Service

end Curfew
