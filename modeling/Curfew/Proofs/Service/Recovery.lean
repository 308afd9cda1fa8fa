import Curfew.Proofs.Config.Start
import Curfew.Proofs.Engine.Recovery
import Curfew.Proofs.Service.Saving
import Curfew.Proofs.Store.Place

namespace Curfew

/-! A service begins with what it can use of the files it finds, whatever is in them, and its ticks
put files in their place that can be used. -/

namespace Setup

/-- The tracker that the allowance file decodes to. -/
def savedAllowance? (directory : String) (disk : Disk) : Option AllowanceTracker :=
  (disk.readText (allowanceFile directory)).toOption.bind fun text =>
    (AllowanceTracker.ofText text).toOption

/-- The states that their file decodes to. -/
def savedStates? (directory : String) (disk : Disk) : Option SavedStates :=
  (disk.readText (statesFile directory)).toOption.bind SavedStates.ofText?

variable {directory : String} {disk : Disk}

theorem savedAllowance?_eq_decoded? (daily : Duration) (now : Instant) :
    FileStore.decoded? ⟨allowanceFile directory, .allowance daily now⟩ disk =
      savedAllowance? directory disk := rfl

theorem savedStates?_eq_decoded? :
    FileStore.decoded? ⟨statesFile directory, .savedStates⟩ disk = savedStates? directory disk := by
  refine congrArg (Option.bind (disk.readText (statesFile directory)).toOption) ?_
  funext text
  simp only [Codec.savedStates]
  cases SavedStates.ofText? text <;> rfl

theorem bounded_of_savedAllowance? {saved : AllowanceTracker}
    (held : saved ∈ savedAllowance? directory disk) :
    saved.remaining.milliseconds ≤ saved.allowance.milliseconds := by
  obtain ⟨text, _, decoded⟩ := Option.bind_eq_some_iff.mp held
  refine @AllowanceTracker.bounded_of_ofText _ text ?_
  cases tracker : AllowanceTracker.ofText text with
  | error reason =>
      rw [tracker] at decoded
      cases decoded
  | ok tracker =>
      rw [tracker] at decoded
      exact congrArg Except.ok (Option.some.inj decoded)

theorem savedAllowance?_of_readText {tracker : AllowanceTracker}
    (read : disk.readText (allowanceFile directory) = .ok tracker.toText)
    (readable : AllowanceTracker.ofText tracker.toText = .ok tracker) :
    savedAllowance? directory disk = some tracker := by
  simp [savedAllowance?, read, readable, Except.toOption]

theorem savedStates?_of_readText {states : SavedStates}
    (read : disk.readText (statesFile directory) = .ok states.toText) :
    savedStates? directory disk = some states := by
  simp [savedStates?, read, Except.toOption, SavedStates.ofText?_toText]

end Setup

namespace Start

variable {α β : Type} {trace between : Trace} {first : Start α} {next : α → Start β} {value : α}

theorem run_bind (ran : first.run trace = (.ok value, between)) :
    (first >>= next).run trace = (next value).run between := by
  rw [ExceptT.run_bind]
  change StateT.bind first.run _ trace = _
  unfold StateT.bind
  simp only [ran]
  rfl

theorem run_get_bind {next : Trace → Start β} : (get >>= next).run trace = (next trace).run trace :=
  rfl

theorem run_tell_bind {notice : Notice} {next : Unit → Start β} :
    (tell notice >>= next).run trace = (next ()).run (trace.tell [notice]) := rfl

theorem run_loadConfig {setup : Setup} {text : String} {config : RawConfig}
    (found : trace.disk.readText setup.configFile = .ok text)
    (accepted : Config.read text = .ok config) :
    ∃ after, (loadConfig setup).run trace = (.ok (config.toPolicy setup.freshId), after) ∧
      after.disk = trace.disk := by
  refine ⟨trace.tell [.configLoaded setup.configFile
    (config.toPolicy setup.freshId).rules.length], ?_, rfl⟩
  unfold loadConfig
  rw [run_get_bind]
  simp only [found, accepted]
  rfl

theorem run_makeDataDirectory {path : String} {made : Disk}
    (steps : Disk.runSteps none trace.disk (trace.disk.directorySteps path) = (made, .ok ())) :
    (makeDataDirectory path).run trace = (.ok (), { trace with disk := made }) := by
  unfold makeDataDirectory
  rw [run_get_bind]
  simp only [steps]
  rfl

theorem run_openStores {policy : Policy} (files : policy.daemon.storage = .file)
    (directory : String) (now : Instant) (trace : Trace) :
    ∃ after, (openStores policy directory now).run trace =
        (.ok (fileStores directory (policy.allowance.map (·.daily)) now), after) ∧
      after.disk = trace.disk := by
  unfold openStores
  dsimp only
  split
  on_goal 1 => rw [run_tell_bind]
  all_goals
    simp only [files, run_tell_bind, pure_bind, run_get_bind]
    split
    · exact ⟨_, rfl, rfl⟩
    · exact ⟨_, rfl, rfl⟩

theorem run_readAllowance (stores : Stores) (trace : Trace) :
    ∃ after, (readAllowance stores).run trace =
        (.ok (stores.allowance.bind fun store => (store.read trace.disk).2.toOption), after) ∧
      after.disk =
        (stores.allowance.map fun store => (store.read trace.disk).1).getD trace.disk := by
  unfold readAllowance
  cases stores.allowance with
  | none => exact ⟨trace, rfl, rfl⟩
  | some store =>
      simp only [run_get_bind, Option.bind_some, Option.map_some, Option.getD_some]
      cases read : store.read trace.disk with
      | mk disk result => cases result <;> exact ⟨_, rfl, rfl⟩

theorem run_restoreStates (stores : Stores) (engine : Engine) (trace : Trace) :
    ∃ after, (restoreStates stores engine).run trace =
        (.ok ((stores.states.read trace.disk).2.toOption.elim engine fun states =>
          (engine.restore states).1), after) := by
  unfold restoreStates
  simp only [run_get_bind]
  cases read : stores.states.read trace.disk with
  | mk disk result => cases result <;> exact ⟨_, rfl⟩

end Start

namespace Service

variable {zone : Zone} {service next : Service} {trace after : Trace} {directory : String}
  {setup : Setup} {policy : Policy} {made : Disk} {now later : Instant}

/-- `ofText` reads back what is left of an allowance after a `synchronize`. -/
theorem ofText_toText_of_synchronize {engine : Engine} {terms : Option AllowancePolicy}
    {tracker : AllowanceTracker}
    (within : Option.Rel AllowanceTracker.Within engine.allowance terms) (readable : later.Readable)
    (dated : engine.Dated zone later)
    (held : (engine.synchronize zone later).1.allowance = some tracker) :
    AllowanceTracker.ofText tracker.toText = .ok tracker := by
  rw [Engine.synchronize_allowance, Option.map_eq_some_iff] at held
  obtain ⟨before, given, rfl⟩ := held
  have moment := Engine.previous_synchronizeTracker (dated before given)
  rw [given] at within
  cases within with
  | some within =>
      have moved := within.synchronize zone engine.resetsDaily later
      refine AllowanceTracker.ofText_toText ?_ ?_
      · rw [moved.allowance]
        exact moved.bounded
      · rwa [moment]

/-- The files decode to the tracker and the states of the engine. -/
structure IsSaved (engine : Engine) (directory : String) (disk : Disk) : Prop where
  allowance : ∀ tracker ∈ engine.allowance, Setup.savedAllowance? directory disk = some tracker
  states : Setup.savedStates? directory disk = some engine.savedStates

theorem isSaved_of_tick {daily : Option Duration} {terms : Option AllowancePolicy}
    (stores : service.stores = Start.fileStores directory daily now)
    (within : Option.Rel AllowanceTracker.Within service.engine.allowance terms)
    (readable : later.Readable) (ticked : service.tick? zone later trace = some (next, after))
    (allowanceTaken : next.engine.allowance.isSome = true →
      next.allowanceTaken none trace.disk = true)
    (statesTaken : next.statesTaken none (next.saveAllowance none trace).disk = true) :
    next.engine = (service.engine.synchronize zone later).1 ∧
      IsSaved next.engine directory after.disk := by
  have beaten : service.beat? zone trace { now := later } = some (next, after) := ticked
  have dated : service.engine.Dated zone later := dated_of_beat? beaten
  obtain ⟨engine, kept, disk⟩ := of_beat? beaten
  rw [stores] at kept
  obtain ⟨last, wroteStates⟩ := Store.takes_iff.mp statesTaken
  rw [disk_persist, wroteStates] at disk
  dsimp only at disk
  subst disk
  rw [kept, Start.fileStores, Store.write_file] at wroteStates
  have statesIsIn := Start.isIn_statesFile directory
  refine ⟨engine, ?_⟩
  cases held : next.engine.allowance with
  | none =>
      obtain ⟨_, _, _, _, put⟩ := FileStore.exists_put_of_write statesIsIn wroteStates
      exact ⟨fun _ missing => by simp [held] at missing, Setup.savedStates?_of_readText put.stored⟩
  | some tracker =>
      have taken := allowanceTaken (held ▸ rfl)
      rw [Service.allowanceTaken, kept, held] at taken
      rw [disk_saveAllowance, kept, held] at wroteStates
      cases daily with
      | none => exact absurd taken Bool.false_ne_true
      | some daily =>
          obtain ⟨between, wroteAllowance⟩ := Store.takes_iff.mp taken
          dsimp only [Start.fileStores, Option.map_some] at wroteStates wroteAllowance
          rw [wroteAllowance] at wroteStates
          rw [Store.write_file] at wroteAllowance
          obtain ⟨readAllowance, readStates⟩ := FileStore.readText_of_writes
            (Start.isIn_allowanceFile directory daily now) statesIsIn (by decide) (by decide)
            wroteAllowance wroteStates
          refine ⟨fun other same => ?_, Setup.savedStates?_of_readText readStates⟩
          cases held.symm.trans same
          exact Setup.savedAllowance?_of_readText readAllowance
            (ofText_toText_of_synchronize within readable dated (engine ▸ held))

/-- What a start with files needs apart from the two files of the state: a configuration that
`Config.read` accepts, with fresh ids where none are given, and a data directory that is there or
can be made. -/
structure Prepared (setup : Setup) (disk : Disk) (policy : Policy) (made : Disk) : Prop where
  config : ∃ text config, disk.readText setup.configFile = .ok text ∧
    Config.read text = .ok config ∧ config.Fresh setup.freshId ∧
    policy = config.toPolicy setup.freshId
  files : policy.daemon.storage = .file
  directory : Disk.runSteps none disk (disk.directorySteps (setup.dataDirOf policy)) =
    (made, .ok ())

/-- Reading the allowance first does not change what the states decode to. -/
theorem savedStates?_of_read {location : Location} (reaches : made.Reaches directory location)
    (daily : Option Duration) (now : Instant) :
    Setup.savedStates? directory
        (((Start.fileStores directory daily now).allowance.map fun store =>
          (store.read made).1).getD made) =
      Setup.savedStates? directory made := by
  cases daily with
  | none => rfl
  | some daily =>
      rw [← Setup.savedStates?_eq_decoded?, ← Setup.savedStates?_eq_decoded?]
      refine congrArg (Option.bind · _) ?_
      simp only [Start.fileStores, Option.map_some, Option.getD_some, Store.read_file]
      rcases FileStore.fst_read ⟨Setup.allowanceFile directory, .allowance daily now⟩ made with
        looked | wrote
      · rw [looked]
      · rw [wrote]
        exact Store.spares_file (Start.isIn_allowanceFile directory daily now)
          (Start.isIn_statesFile directory) reaches (by decide) (by decide) none _ made
          (.refl made)

theorem isReadOf_readAllowance {terms : AllowancePolicy} (directory : String) (made : Disk)
    (now : Instant) (given : terms ∈ policy.allowance) :
    terms.IsReadOf now (Setup.savedAllowance? directory made)
      ((Start.fileStores directory (policy.allowance.map (·.daily)) now).allowance.bind fun store =>
        (store.read made).2.toOption) := by
  rw [Option.mem_def.mp given]
  refine ⟨fun _ => Setup.bounded_of_savedAllowance?, ?_⟩
  simp only [Start.fileStores, Option.map_some, Option.bind_some, Store.read_file]
  rw [← Setup.savedAllowance?_eq_decoded? terms.daily now]
  exact FileStore.toOption_read _ made

theorem readStates_cases {location : Location} (reaches : made.Reaches directory location)
    (daily : Option Duration) (now : Instant) {disk : Disk}
    (read : disk = ((Start.fileStores directory daily now).allowance.map fun store =>
      (store.read made).1).getD made) :
    ((Start.fileStores directory daily now).states.read disk).2.toOption =
        Setup.savedStates? directory made ∨
      Setup.savedStates? directory made = none ∧
        ((Start.fileStores directory daily now).states.read disk).2.toOption = some .empty := by
  rw [← savedStates?_of_read reaches daily now, ← read, ← Setup.savedStates?_eq_decoded?]
  simp only [Start.fileStores, Store.read_file]
  exact FileStore.toOption_read _ disk

/-- `Service.start` with files, once the configuration has been read and the directory made: it goes
on with what was read of both files, unless a local date is missing. -/
theorem start_eq (prepared : Prepared setup trace.disk policy made) (zone : Zone) (now : Instant) :
    ∃ read? restored? between after,
      (∀ terms ∈ policy.allowance, terms.IsReadOf now
        (Setup.savedAllowance? (setup.dataDirOf policy) made) read?) ∧
      (restored? = Setup.savedStates? (setup.dataDirOf policy) made ∨
        Setup.savedStates? (setup.dataDirOf policy) made = none ∧ restored? = some .empty) ∧
      (policy.rules.map (·.id)).Nodup ∧
      Service.start zone setup now trace =
        if policy.LacksDate zone read? now then (.error .noLocalDate, between)
        else (.ok { engine := (Engine.initial zone policy read? now).taking restored?
                    stores := Start.fileStores (setup.dataDirOf policy)
                      (policy.allowance.map (·.daily)) now
                    tickInterval := policy.daemon.tickInterval }, after) := by
  obtain ⟨⟨text, config, found, accepted, fresh, rfl⟩, files, steps⟩ := prepared
  have addable := RawConfig.addable_toPolicy fresh (RawConfig.problems_of_read accepted)
  obtain ⟨loaded, loads, same⟩ := Start.run_loadConfig found accepted
  generalize config.toPolicy setup.freshId = policy at *
  obtain ⟨location, reaches⟩ := Disk.reaches_of_directorySteps steps
  have makes := Start.run_makeDataDirectory (same.symm ▸ steps)
  obtain ⟨opened, opens, unchanged⟩ :=
    Start.run_openStores files (setup.dataDirOf policy) now { loaded with disk := made }
  obtain ⟨between, reads, disk⟩ := Start.run_readAllowance
    (Start.fileStores (setup.dataDirOf policy) (policy.allowance.map (·.daily)) now) opened
  rw [unchanged] at reads disk
  have isRead (terms : AllowancePolicy) (given : terms ∈ policy.allowance) :=
    isReadOf_readAllowance (setup.dataDirOf policy) made now given
  have states := readStates_cases reaches (policy.allowance.map (·.daily)) now disk
  generalize Option.bind _ _ = read? at reads isRead
  obtain ⟨after, restores⟩ := Start.run_restoreStates
    (Start.fileStores (setup.dataDirOf policy) (policy.allowance.map (·.daily)) now)
    (Engine.initial zone policy read? now) between
  refine ⟨read?, _, between, after, isRead, states, addable.distinct, ?_⟩
  unfold Service.start Start.service
  rw [Start.run_bind loads, Start.run_bind makes, Start.run_bind opens, Start.run_bind reads]
  by_cases lacks : policy.LacksDate zone read? now
  · rw [if_pos lacks, Engine.ofPolicy_of_lacksDate addable lacks]
    rfl
  · rw [if_neg lacks, Engine.ofPolicy_of_not_lacksDate addable lacks]
    dsimp only
    rw [Start.run_bind restores]
    rfl

theorem start_breaks_off (prepared : Prepared setup trace.disk policy made) (now : Instant)
    {terms : AllowancePolicy} {saved : AllowanceTracker} (given : terms ∈ policy.allowance)
    (held : saved ∈ Setup.savedAllowance? (setup.dataDirOf policy) made)
    (daily : terms.resetDaily = true) (same : saved.allowance = terms.daily)
    (missing : zone.hasDate saved.previous = false) :
    (Service.start zone setup now trace).1 = .error .noLocalDate := by
  obtain ⟨read?, _, _, _, isRead, _, _, started⟩ := start_eq prepared zone now
  have lacks : policy.LacksDate zone read? now :=
    ⟨terms, given, AllowancePolicy.lacksDate_of_saved (isRead terms given) held daily same missing⟩
  rw [started, if_pos lacks]

/-- `Service.start` with files, whatever the two files of the state hold.  It succeeds with an
engine that `Recovers` what can be used of them, or breaks off for want of a local date; and it does
break off where a saved tracker of the configured allowance, refilled daily, has none.  After any
operations on its engine, a `tick?` whose writes succeed leaves files that decode to the state of
the engine. -/
theorem start_recovers (prepared : Prepared setup trace.disk policy made) (zone : Zone)
    (now : Instant) :
    ((∃ service begun, Service.start zone setup now trace = (.ok service, begun) ∧
        service.engine.Recovers zone policy now
          (Setup.savedAllowance? (setup.dataDirOf policy) made)
          (Setup.savedStates? (setup.dataDirOf policy) made) ∧
        ∀ (operations : List Engine.Operation) (current next : Service) (later : Instant)
            (before after : Trace),
          current.stores = service.stores →
          current.engine = (service.engine.run zone operations).1 →
          later.Readable →
          current.tick? zone later before = some (next, after) →
          (next.engine.allowance.isSome = true → next.allowanceTaken none before.disk = true) →
          next.statesTaken none (next.saveAllowance none before).disk = true →
          next.engine = (current.engine.synchronize zone later).1 ∧
            IsSaved next.engine (setup.dataDirOf policy) after.disk) ∨
      (Service.start zone setup now trace).1 = .error .noLocalDate ∧
        ∃ terms ∈ policy.allowance, ¬ terms.HasDates zone now
          (Setup.savedAllowance? (setup.dataDirOf policy) made)) ∧
    ∀ terms ∈ policy.allowance,
      ∀ saved ∈ Setup.savedAllowance? (setup.dataDirOf policy) made,
        terms.resetDaily = true → saved.allowance = terms.daily →
        zone.hasDate saved.previous = false →
        (Service.start zone setup now trace).1 = .error .noLocalDate := by
  obtain ⟨read?, restored?, between, begun, isRead, states, distinct, started⟩ :=
    start_eq prepared zone now
  rw [started]
  constructor
  · split
    · rename_i lacks
      obtain ⟨terms, given, lacks⟩ := lacks
      exact .inr ⟨rfl, terms, given, fun dates =>
        AllowancePolicy.not_lacksDate_of_hasDates (isRead terms given) dates lacks⟩
    · rename_i dated
      refine .inl ⟨_, _, rfl, Engine.recovers_taking distinct isRead dated states, ?_⟩
      intro operations current next later before after stores engine readable ticked
      have within : Option.Rel AllowanceTracker.Within current.engine.allowance
          policy.allowance := by
        rw [engine]
        exact Engine.within_run Engine.within_taking zone operations
      exact isSaved_of_tick stores within readable ticked
  · intro terms given saved held daily same missing
    exact started ▸ start_breaks_off prepared now given held daily same missing

/-- Two hours a day, and ninety minutes of focus. -/
def tamperedConfig : RawConfig where
  version := 1
  allowance := some ⟨120, true⟩
  rules := [⟨some "focus", none, .always, .timed 90 true⟩]

def tamperedSetup : Setup where
  configFile := "/c"
  dataDir := some "/d"
  defaultDataDir := "/"
  freshId _ := ""

def tamperedPolicy : Policy := tamperedConfig.toPolicy tamperedSetup.freshId

/-- The saved allowance is of the first hour of the calendar.  The focus has run out, and a state is
saved for a rule that there is not. -/
def tamperedTrace : Trace where
  disk.entries := .ofList
    [("/c", .file 0 (.text ("config_version = 1\nallowance = [120]\n" ++
        "[[rules]]\nid = \"focus\"\nactivator = [\"always\"]\n" ++
        "protector = [\"countdown\", 90, true]\n"))),
      ("/d", .directory),
      ("/d/allowance.json", .file 1 (.text "[7200000,3600000,-8334601228800000]")),
      ("/d/protectors.json", .file 2 (.text
        "\x7b\"focus\":[\"running\",0,0],\"gone\":[\"idle\"]\x7d"))]
  disk.nextNumber := 3

theorem prepared_tampered :
    Prepared tamperedSetup tamperedTrace.disk tamperedPolicy tamperedTrace.disk where
  config := by
    have found : tamperedTrace.disk.readText "/c" = .ok ("config_version = 1\n" ++
        "allowance = [120]\n[[rules]]\nid = \"focus\"\nactivator = [\"always\"]\n" ++
        "protector = [\"countdown\", 90, true]\n") := by
      with_unfolding_all rfl
    have named (position : Nat) : ¬ tamperedConfig.Unnamed position := by
      rintro ⟨rule, written, unnamed⟩
      cases position with
      | zero =>
          cases written
          cases unnamed
      | succ position => simp [tamperedConfig] at written
    exact ⟨_, tamperedConfig, found, by decide +kernel,
      ⟨fun earlier _ one => absurd one (named earlier),
        fun position one => absurd one (named position)⟩, rfl⟩
  files := rfl
  directory := by with_unfolding_all rfl

theorem savedAllowance?_tampered :
    Setup.savedAllowance? (tamperedSetup.dataDirOf tamperedPolicy) tamperedTrace.disk =
      some ⟨⟨7200000, by decide⟩,
        ⟨⟨3600000, by decide⟩, ⟨-8334601228800000, by decide, by decide⟩⟩⟩ := by
  decide +kernel

/-- `Service.start` in UTC succeeds: the saved allowance is of another day, so that the new one is
full, and the focus is idle. -/
theorem tampered_recovers :
    ∃ service begun, Service.start .utc tamperedSetup .epoch tamperedTrace = (.ok service, begun) ∧
      service.engine.allowance = some (.full ⟨7200000, by decide⟩ .epoch) ∧
      service.engine.rule? "focus" = some ⟨.always, .timed (.idle ⟨5400000, by decide⟩)⟩ := by
  obtain ⟨service, begun, started, recovers, _⟩ | ⟨_, terms, given, missing⟩ :=
    (start_recovers prepared_tampered .utc .epoch).1
  · have states : Setup.savedStates? (tamperedSetup.dataDirOf tamperedPolicy) tamperedTrace.disk =
        some (.ofList [("focus", .running ⟨0, 0, by decide, by decide⟩), ("gone", .idle)]) := by
      decide +kernel
    rw [savedAllowance?_tampered, states] at recovers
    have terms : tamperedPolicy.allowance = some ⟨⟨7200000, by decide⟩, true⟩ := by decide +kernel
    have focus : tamperedPolicy.rule? "focus" =
        some ⟨"focus", "focus", .always, .timed ⟨5400000, by decide⟩ true⟩ := by
      decide +kernel
    obtain ⟨tracker, held, begins⟩ := recovers.exists_tracker terms
    obtain ⟨protector, has, resumes⟩ := recovers.exists_rule focus
    refine ⟨service, begun, started, held.trans (congrArg some (begins.eq_full ?_)), has.trans ?_⟩
    · intro saved given goesOn
      cases given
      exact absurd (goesOn.date rfl) (by decide +kernel)
    · cases resumes with
      | stays misfit => exact absurd ⟨rfl, by decide⟩ (misfit _ rfl)
      | takes _ duration isIn =>
          cases isIn with
          | runOut =>
              cases duration
              rfl
          | running _ left => exact absurd rfl left
  · refine absurd (fun _ => ⟨by decide, fun saved held _ => ?_⟩) missing
    rw [savedAllowance?_tampered] at held
    cases held
    decide

/-- `Service.start` an hour west of UTC breaks off, since the instant of the saved allowance belongs
to no local date there. -/
theorem tampered_breaks_off :
    Prepared tamperedSetup tamperedTrace.disk tamperedPolicy tamperedTrace.disk ∧
    (Service.start (.fixed (-60)) tamperedSetup .epoch tamperedTrace).1 = .error .noLocalDate :=
  ⟨prepared_tampered, start_breaks_off prepared_tampered .epoch rfl savedAllowance?_tampered rfl rfl
    (by decide)⟩

end Service

end Curfew
