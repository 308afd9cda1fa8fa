import Curfew.Proofs.Record
import Curfew.Proofs.Service.Start
import Mathlib.Data.List.TakeWhile

namespace Curfew

/-! What a service leaves in its stores when any of its writes can fail. -/

/-- A tick of a service, or its stop, with what happens to the writes. -/
structure Beat where
  now : Instant
  faults : Faults := {}
  isStop : Bool := false

/-- What a beat leaves: the engine, and which of the stores have taken it. -/
structure Outcome where
  now : Instant
  engine : Engine
  allowanceTaken : Bool
  statesTaken : Bool

/-- A service after all beats that did not break off. -/
structure Life where
  service : Service
  trace : Trace
  outcomes : List Outcome := []

namespace Service

variable {zone : Zone} {service : Service} {trace : Trace}

def beat? (zone : Zone) (service : Service) (trace : Trace) (beat : Beat) :
    Option (Service × Trace) :=
  if beat.isStop then service.stopWith? beat.faults zone beat.now trace
  else service.tickWith? beat.faults zone beat.now trace

/-- The allowance store takes the tracker of the engine. -/
def allowanceTaken (fault : Option Disk.Fault) (service : Service) (disk : Disk) : Bool :=
  match service.stores.allowance, service.engine.allowance with
  | some store, some tracker => store.takes fault tracker disk
  | _, _ => false

def statesTaken (fault : Option Disk.Fault) (service : Service) (disk : Disk) : Bool :=
  service.stores.states.takes fault service.engine.savedStates disk

/-- The outcome of a beat that leaves the service `next`.  The states are written to the disk that
the allowance has left. -/
def outcome (next : Service) (trace : Trace) (beat : Beat) : Outcome where
  now := beat.now
  engine := next.engine
  allowanceTaken := next.allowanceTaken beat.faults.allowance trace.disk
  statesTaken := next.statesTaken beat.faults.states
    (next.saveAllowance beat.faults.allowance trace).disk

/-- The beats one after the other.  One that breaks off is the end of the service. -/
def live (zone : Zone) (service : Service) (trace : Trace) : List Beat → Life
  | [] => { service, trace }
  | beat :: rest =>
      match service.beat? zone trace beat with
      | none => { service, trace }
      | some (next, after) =>
          let life := next.live zone after rest
          { life with outcomes := next.outcome trace beat :: life.outcomes }

/-- The beats before the first one for which a local date is missing. -/
def done (zone : Zone) (service : Service) (beats : List Beat) : List Beat :=
  beats.takeWhile fun beat => decide (service.engine.Dated zone beat.now)

end Service

/-- The last outcome that a store has taken. -/
def lastTaken (taken : Outcome → Bool) (outcomes : List Outcome) : Option Outcome :=
  (outcomes.filter taken).getLast?

theorem lastTaken_cons (taken : Outcome → Bool) (outcome : Outcome) (rest : List Outcome) :
    lastTaken taken (outcome :: rest) =
      (lastTaken taken rest).or (if taken outcome then some outcome else none) := by
  unfold lastTaken
  rw [List.filter_cons]
  split
  · rw [List.getLast?_cons]
    cases (rest.filter taken).getLast? <;> rfl
  · simp

/-- The outcome has an allowance whose text is read back, provided that the time of the beat is
readable. -/
def Outcome.HasTracker (outcome : Outcome) : Prop :=
  ∃ tracker, outcome.engine.allowance = some tracker ∧
    tracker.remaining.milliseconds ≤ tracker.allowance.milliseconds ∧
    tracker.previous = outcome.now

namespace Service

variable {zone : Zone} {service : Service} {trace : Trace}

theorem disk_save {α ε : Type} (trace : Trace) (fault : Option Disk.Fault) (store : Store α ε)
    (value : α) (failed : Notice) :
    (trace.save fault store value failed).disk = (store.write fault value trace.disk).1 := by
  unfold Trace.save
  generalize store.write fault value trace.disk = written
  obtain ⟨disk, result⟩ := written
  cases result <;> rfl

theorem disk_saveAllowance (fault : Option Disk.Fault) (service : Service) (trace : Trace) :
    (service.saveAllowance fault trace).disk =
      match service.stores.allowance, service.engine.allowance with
      | some store, some tracker => (store.write fault tracker trace.disk).1
      | _, _ => trace.disk := by
  unfold saveAllowance
  cases service.stores.allowance with
  | none => rfl
  | some store =>
      cases service.engine.allowance with
      | none => rfl
      | some tracker => exact disk_save ..

theorem disk_persist (faults : Faults) (service : Service) (trace : Trace) :
    (service.persist faults trace).disk =
      (service.stores.states.write faults.states service.engine.savedStates
        (service.saveAllowance faults.allowance trace).disk).1 :=
  disk_save ..

theorem beat?_eq_none_iff {beat : Beat} :
    service.beat? zone trace beat = none ↔ ¬ service.engine.Dated zone beat.now := by
  have broke : (∃ failure, (service.engine.synchronize zone beat.now).2 = .error failure) ↔
      ¬ service.engine.Dated zone beat.now := by
    simp [Engine.synchronize_eq_error_iff]
  rw [← broke]
  unfold Service.beat? stopWith? tickWith?
  rcases service.engine.synchronize zone beat.now with ⟨engine, failure | events⟩
  · simp
  · split <;> simp

/-- A beat that does not break off synchronizes the engine and saves it. -/
theorem of_beat? {beat : Beat} {next : Service} {after : Trace}
    (beaten : service.beat? zone trace beat = some (next, after)) :
    next.engine = (service.engine.synchronize zone beat.now).1 ∧ next.stores = service.stores ∧
      after.disk = (next.persist beat.faults trace).disk := by
  unfold Service.beat? stopWith? tickWith? at beaten
  generalize service.engine.synchronize zone beat.now = synchronized at beaten ⊢
  obtain ⟨engine, failure | events⟩ := synchronized
  · simp at beaten
  · simp only [review] at beaten
    split at beaten
    · cases beaten
      exact ⟨rfl, rfl, rfl⟩
    · cases beaten
      refine ⟨rfl, rfl, ?_⟩
      simp only [disk_persist, disk_saveAllowance, Trace.tell]

theorem dated_of_beat? {beat : Beat} {left : Service × Trace}
    (beaten : service.beat? zone trace beat = some left) : service.engine.Dated zone beat.now := by
  by_contra undated
  rw [beat?_eq_none_iff.mpr undated] at beaten
  contradiction

theorem done_cons {beat : Beat} {rest : List Beat} {next : Service} {after : Trace}
    (beaten : service.beat? zone trace beat = some (next, after)) :
    service.done zone (beat :: rest) = beat :: next.done zone rest := by
  have dated := dated_of_beat? beaten
  have later (now : Instant) : next.engine.Dated zone now ↔ service.engine.Dated zone now := by
    rw [(of_beat? beaten).1, Engine.dated_synchronize_iff]
  simp [done, dated, later]

theorem done_cons_of_none {beat : Beat} {rest : List Beat}
    (broke : service.beat? zone trace beat = none) : service.done zone (beat :: rest) = [] :=
  List.takeWhile_cons_of_neg (by simpa using beat?_eq_none_iff.mp broke)

variable {kind : Disk → Prop} {allowanceAdmits statesAdmits : Option Disk.Fault → Bool}
  {terms : Option AllowancePolicy} {faults : Faults}
  {store : Store AllowanceTracker AllowanceRecordError}

theorem Sound.tracker (sound : service.Sound kind allowanceAdmits statesAdmits terms)
    (given : service.stores.allowance = some store) :
    ∃ tracker terms, service.engine.allowance = some tracker ∧ tracker.Within terms := by
  have some := sound.given
  rw [given] at some
  have within := sound.within
  generalize service.engine.allowance = allowance at within
  cases within with
  | none => simp at some
  | some within => exact ⟨_, _, rfl, within⟩

theorem Sound.kind_saveAllowance (sound : service.Sound kind allowanceAdmits statesAdmits terms)
    (held : kind trace.disk) (fault : Option Disk.Fault) :
    kind (service.saveAllowance fault trace).disk := by
  rw [disk_saveAllowance]
  split
  · rename_i store tracker given _
    exact (sound.stores.allowance store given).write fault tracker held
  · exact held

theorem Sound.kind_persist (sound : service.Sound kind allowanceAdmits statesAdmits terms)
    (held : kind trace.disk) (faults : Faults) : kind (service.persist faults trace).disk := by
  rw [disk_persist]
  exact sound.stores.states.write _ _ (sound.kind_saveAllowance held faults.allowance)

theorem Sound.cell_allowance (sound : service.Sound kind allowanceAdmits statesAdmits terms)
    (held : kind trace.disk) (given : service.stores.allowance = some store) (faults : Faults) :
    service.allowanceTaken faults.allowance trace.disk = allowanceAdmits faults.allowance ∧
      store.cell (service.persist faults trace).disk =
        if allowanceAdmits faults.allowance then
          service.engine.allowance.map AllowanceTracker.toText
        else store.cell trace.disk := by
  obtain ⟨tracker, _, has, _⟩ := sound.tracker given
  have reliable := sound.stores.allowance store given
  obtain ⟨daily, now, codec⟩ := sound.stores.allowanceCodec store given
  have first : (service.saveAllowance faults.allowance trace).disk =
      (store.write faults.allowance tracker trace.disk).1 := by
    rw [disk_saveAllowance, given, has]
  constructor
  · simp only [allowanceTaken, given, has]
    exact reliable.takes faults.allowance tracker held
  · -- The states are written after the allowance, and spare it.
    rw [disk_persist, first, sound.stores.sparesAllowance store given _ _ _
      (reliable.write faults.allowance tracker held), reliable.cell faults.allowance tracker held,
      codec, has]
    rfl

theorem Sound.cell_states (sound : service.Sound kind allowanceAdmits statesAdmits terms)
    (held : kind trace.disk) (faults : Faults) :
    service.statesTaken faults.states (service.saveAllowance faults.allowance trace).disk =
        statesAdmits faults.states ∧
      service.stores.states.cell (service.persist faults trace).disk =
        if statesAdmits faults.states then some service.engine.savedStates.toText
        else service.stores.states.cell trace.disk := by
  have between := sound.kind_saveAllowance held faults.allowance
  have spared : service.stores.states.cell (service.saveAllowance faults.allowance trace).disk =
      service.stores.states.cell trace.disk := by
    rw [disk_saveAllowance]
    split
    · rename_i store tracker given _
      exact sound.stores.sparesStates store given faults.allowance tracker trace.disk held
    · rfl
  refine ⟨sound.stores.states.takes _ _ between, ?_⟩
  rw [disk_persist, sound.stores.states.cell _ _ between, sound.stores.statesCodec, spared]
  rfl

theorem Sound.after_beat {beat : Beat} {next : Service} {after : Trace}
    (sound : service.Sound kind allowanceAdmits statesAdmits terms) (held : kind trace.disk)
    (beaten : service.beat? zone trace beat = some (next, after)) :
    next.Sound kind allowanceAdmits statesAdmits terms ∧ kind after.disk := by
  obtain ⟨engine, stores, disk⟩ := of_beat? beaten
  have sound : next.Sound kind allowanceAdmits statesAdmits terms := by
    refine ⟨stores ▸ sound.stores, stores ▸ sound.given, ?_⟩
    rw [engine, Engine.synchronize_allowance]
    exact rel_map_left sound.within fun _ _ within => within.synchronize zone _ beat.now
  refine ⟨sound, ?_⟩
  rw [disk]
  exact sound.kind_persist held beat.faults

theorem length_outcomes (zone : Zone) (service : Service) (trace : Trace) (beats : List Beat) :
    (service.live zone trace beats).outcomes.length = (service.done zone beats).length := by
  induction beats generalizing service trace with
  | nil => rfl
  | cons beat rest ih =>
      cases beaten : service.beat? zone trace beat with
      | none => simp [live, beaten, done_cons_of_none beaten]
      | some left =>
          obtain ⟨next, after⟩ := left
          simp [live, beaten, done_cons beaten, ih]

theorem engine_live (zone : Zone) (service : Service) (trace : Trace) (beats : List Beat) :
    (service.live zone trace beats).service.engine =
      (service.engine.run zone
        ((service.done zone beats).map fun beat => .synchronize beat.now)).1 := by
  induction beats generalizing service trace with
  | nil => rfl
  | cons beat rest ih =>
      cases beaten : service.beat? zone trace beat with
      | none =>
          rw [done_cons_of_none beaten]
          simp [live, beaten, Engine.run]
      | some left =>
          obtain ⟨next, after⟩ := left
          rw [done_cons beaten, List.map_cons, Engine.run_cons, Engine.next_synchronize,
            ← (of_beat? beaten).1]
          simpa only [live, beaten] using ih next after

theorem engine_of_outcome {beats : List Beat} {position : Nat} {outcome : Outcome}
    (found : (service.live zone trace beats).outcomes[position]? = some outcome) :
    outcome.engine = (service.engine.run zone
      ((beats.take (position + 1)).map fun beat => .synchronize beat.now)).1 := by
  induction beats generalizing service trace position with
  | nil => contradiction
  | cons beat rest ih =>
      cases beaten : service.beat? zone trace beat with
      | none => simp [live, beaten] at found
      | some left =>
          obtain ⟨next, after⟩ := left
          simp only [live, beaten] at found
          rw [List.take_succ_cons, List.map_cons, Engine.run_cons, Engine.next_synchronize,
            ← (of_beat? beaten).1]
          cases position with
          | zero =>
              cases found
              rfl
          | succ position => exact ih found

/-- The invariant of `live`: a sound service, its stores, and a disk of one kind. -/
structure Steady (stores : Stores) (kind : Disk → Prop)
    (allowanceAdmits statesAdmits : Option Disk.Fault → Bool) (terms : Option AllowancePolicy)
    (service : Service) (disk : Disk) : Prop where
  sound : service.Sound kind allowanceAdmits statesAdmits terms
  stores : service.stores = stores
  held : kind disk

theorem Steady.after_beat {stores : Stores} {beat : Beat} {next : Service} {after : Trace}
    (steady : Steady stores kind allowanceAdmits statesAdmits terms service trace.disk)
    (beaten : service.beat? zone trace beat = some (next, after)) :
    Steady stores kind allowanceAdmits statesAdmits terms next after.disk := by
  obtain ⟨sound, disk⟩ := steady.sound.after_beat steady.held beaten
  exact ⟨sound, (of_beat? beaten).2.1.trans steady.stores, disk⟩

/-- A place into which every admitted beat puts something, and nothing else does, holds what the
last admitted beat has put there. -/
theorem live_cell {stores : Stores} (admits : Beat → Bool) (good : Outcome → Prop)
    (taken : Outcome → Bool) (content : Outcome → Cell) (cell : Disk → Cell)
    (step : ∀ (service : Service) (trace : Trace) (beat : Beat) (next : Service) (after : Trace),
      Steady stores kind allowanceAdmits statesAdmits terms service trace.disk →
      service.beat? zone trace beat = some (next, after) →
        good (next.outcome trace beat) ∧ taken (next.outcome trace beat) = admits beat ∧
        cell after.disk =
          if admits beat then content (next.outcome trace beat) else cell trace.disk)
    (steady : Steady stores kind allowanceAdmits statesAdmits terms service trace.disk)
    (beats : List Beat) :
    (service.live zone trace beats).outcomes.map taken = (service.done zone beats).map admits ∧
      (∀ outcome ∈ (service.live zone trace beats).outcomes, good outcome) ∧
      cell (service.live zone trace beats).trace.disk =
        match lastTaken taken (service.live zone trace beats).outcomes with
        | none => cell trace.disk
        | some outcome => content outcome := by
  induction beats generalizing service trace with
  | nil => exact ⟨rfl, fun _ member => by contradiction, rfl⟩
  | cons beat rest ih =>
      cases beaten : service.beat? zone trace beat with
      | none =>
          rw [done_cons_of_none beaten]
          simp only [live, beaten]
          exact ⟨rfl, fun _ member => by contradiction, rfl⟩
      | some left =>
          obtain ⟨next, after⟩ := left
          obtain ⟨first, took, here⟩ := step service trace beat next after steady beaten
          obtain ⟨pattern, all, last⟩ := ih (steady.after_beat beaten)
          rw [done_cons beaten]
          simp only [live, beaten, List.map_cons, List.mem_cons, forall_eq_or_imp]
          refine ⟨by rw [took, pattern], ⟨first, all⟩, ?_⟩
          -- This beat only counts if nothing is taken from the rest of them.
          rw [last, lastTaken_cons, took, here]
          cases lastTaken taken (live zone next after rest).outcomes with
          | some outcome => rfl
          | none => cases admits beat <;> rfl

theorem allowance_outcome {beat : Beat} {next : Service} {after : Trace}
    (sound : service.Sound kind allowanceAdmits statesAdmits terms)
    (held : kind trace.disk) (given : service.stores.allowance = some store)
    (beaten : service.beat? zone trace beat = some (next, after)) :
    (next.outcome trace beat).HasTracker ∧
      (next.outcome trace beat).allowanceTaken = allowanceAdmits beat.faults.allowance ∧
      store.cell after.disk =
        if allowanceAdmits beat.faults.allowance then
          (next.outcome trace beat).engine.allowance.map AllowanceTracker.toText
        else store.cell trace.disk := by
  obtain ⟨engine, stores, disk⟩ := of_beat? beaten
  obtain ⟨sound, _⟩ := sound.after_beat held beaten
  have stillGiven : next.stores.allowance = some store := by
    rw [stores, given]
  obtain ⟨taken, cell⟩ := sound.cell_allowance held stillGiven beat.faults
  refine ⟨?_, taken, ?_⟩
  · obtain ⟨tracker, terms, has, within⟩ := sound.tracker stillGiven
    refine ⟨tracker, has, ?_, ?_⟩
    · rw [within.allowance]
      exact within.bounded
    · have dated := dated_of_beat? beaten
      rw [engine, Engine.synchronize_allowance, Option.map_eq_some_iff] at has
      obtain ⟨before, given, rfl⟩ := has
      exact Engine.previous_synchronizeTracker (dated before given)
  · rw [disk]
    exact cell

theorem states_outcome {beat : Beat} {next : Service} {after : Trace}
    (sound : service.Sound kind allowanceAdmits statesAdmits terms) (held : kind trace.disk)
    (beaten : service.beat? zone trace beat = some (next, after)) :
    (next.outcome trace beat).statesTaken = statesAdmits beat.faults.states ∧
      service.stores.states.cell after.disk =
        if statesAdmits beat.faults.states then
          some (next.outcome trace beat).engine.savedStates.toText
        else service.stores.states.cell trace.disk := by
  obtain ⟨_, stores, disk⟩ := of_beat? beaten
  obtain ⟨sound, _⟩ := sound.after_beat held beaten
  obtain ⟨taken, cell⟩ := sound.cell_states held beat.faults
  rw [stores] at cell
  refine ⟨taken, ?_⟩
  rw [disk]
  exact cell

theorem live_allowance (sound : service.Sound kind allowanceAdmits statesAdmits terms)
    (held : kind trace.disk) (given : service.stores.allowance = some store) (zone : Zone)
    (beats : List Beat) :
    (service.live zone trace beats).outcomes.map (·.allowanceTaken) =
        ((service.done zone beats).map fun beat => allowanceAdmits beat.faults.allowance) ∧
      match lastTaken (·.allowanceTaken) (service.live zone trace beats).outcomes with
      | none => store.cell (service.live zone trace beats).trace.disk = store.cell trace.disk
      | some outcome => ∃ tracker, outcome.engine.allowance = some tracker ∧
          store.cell (service.live zone trace beats).trace.disk = some tracker.toText ∧
          (outcome.now.Readable →
            (store.read (service.live zone trace beats).trace.disk).2 = .ok tracker) := by
  obtain ⟨pattern, good, cell⟩ := live_cell (fun beat => allowanceAdmits beat.faults.allowance)
    Outcome.HasTracker (·.allowanceTaken)
    (fun outcome => outcome.engine.allowance.map AllowanceTracker.toText) store.cell
    (fun _ _ _ _ _ steady beaten =>
      allowance_outcome steady.sound steady.held (steady.stores ▸ given) beaten)
    ⟨sound, rfl, held⟩ beats
  refine ⟨pattern, ?_⟩
  cases last : lastTaken (·.allowanceTaken) (service.live zone trace beats).outcomes with
  | none => simpa only [last] using cell
  | some outcome =>
      have member := List.mem_of_mem_filter (List.mem_of_getLast? last)
      obtain ⟨tracker, has, bounded, previous⟩ := good outcome member
      have full : store.cell (service.live zone trace beats).trace.disk = some tracker.toText := by
        simpa only [last, has, Option.map_some] using cell
      refine ⟨tracker, has, full, fun readable => ?_⟩
      obtain ⟨daily, now, codec⟩ := sound.stores.allowanceCodec store given
      refine Store.read_of_cell full ?_
      rw [codec]
      exact AllowanceTracker.ofText_toText bounded (previous ▸ readable)

theorem live_states (sound : service.Sound kind allowanceAdmits statesAdmits terms)
    (held : kind trace.disk) (zone : Zone) (beats : List Beat) :
    (service.live zone trace beats).outcomes.map (·.statesTaken) =
        ((service.done zone beats).map fun beat => statesAdmits beat.faults.states) ∧
      match lastTaken (·.statesTaken) (service.live zone trace beats).outcomes with
      | none => service.stores.states.cell (service.live zone trace beats).trace.disk =
          service.stores.states.cell trace.disk
      | some outcome =>
          service.stores.states.cell (service.live zone trace beats).trace.disk =
              some outcome.engine.savedStates.toText ∧
            (service.stores.states.read (service.live zone trace beats).trace.disk).2 =
              .ok outcome.engine.savedStates := by
  obtain ⟨pattern, _, cell⟩ := live_cell (fun beat => statesAdmits beat.faults.states)
    (fun _ => True) (·.statesTaken) (fun outcome => some outcome.engine.savedStates.toText)
    service.stores.states.cell
    (fun _ _ _ _ _ steady beaten => by
      have outcome := states_outcome steady.sound steady.held beaten
      rw [steady.stores] at outcome
      exact ⟨trivial, outcome⟩)
    ⟨sound, rfl, held⟩ beats
  refine ⟨pattern, ?_⟩
  cases last : lastTaken (·.statesTaken) (service.live zone trace beats).outcomes with
  | none => simpa only [last] using cell
  | some outcome =>
      have full : service.stores.states.cell (service.live zone trace beats).trace.disk =
          some outcome.engine.savedStates.toText := by
        simpa only [last] using cell
      refine ⟨full, Store.read_of_cell full ?_⟩
      rw [sound.stores.statesCodec]
      simp [Codec.savedStates, SavedStates.ofText?_toText]

theorem done_eq_self {beats : List Beat}
    (dated : ∀ beat ∈ beats, service.engine.Dated zone beat.now) : service.done zone beats = beats :=
  List.takeWhile_eq_self_iff.mpr fun beat member => decide_eq_true (dated beat member)

/-- `live` of a service that `Service.start` gives, with files or a database, under any faults of
its writes.  The engine is that of `synchronize` alone at the times of the beats, up to the first
one that breaks off, which are all where no local date is missing.  Whether a store takes what a
beat writes is decided by the fault of that very write; the store then holds the text of the last
value it took, or what it held at the start, and its `read` gives that value back. -/
theorem stored_of_start {setup : Setup} {now : Instant} {begun : Trace}
    (numbered : trace.disk.Numbered)
    (started : Service.start zone setup now trace = (.ok service, begun)) :
    ∃ allowanceAdmits statesAdmits : Option Disk.Fault → Bool, ∀ beats : List Beat,
      (service.live zone begun beats).outcomes.length = (service.done zone beats).length ∧
      ((∀ beat ∈ beats, service.engine.Dated zone beat.now) → service.done zone beats = beats) ∧
      (service.live zone begun beats).service.engine = (service.engine.run zone
        ((service.done zone beats).map fun beat => .synchronize beat.now)).1 ∧
      (∀ position outcome,
        (service.live zone begun beats).outcomes[position]? = some outcome →
          outcome.engine = (service.engine.run zone
            ((beats.take (position + 1)).map fun beat => .synchronize beat.now)).1) ∧
      (∀ store, service.stores.allowance = some store →
        (service.live zone begun beats).outcomes.map (·.allowanceTaken) =
            ((service.done zone beats).map fun beat => allowanceAdmits beat.faults.allowance) ∧
        match lastTaken (·.allowanceTaken) (service.live zone begun beats).outcomes with
        | none => store.cell (service.live zone begun beats).trace.disk = store.cell begun.disk
        | some outcome => ∃ tracker, outcome.engine.allowance = some tracker ∧
            store.cell (service.live zone begun beats).trace.disk = some tracker.toText ∧
            (outcome.now.Readable →
              (store.read (service.live zone begun beats).trace.disk).2 = .ok tracker)) ∧
      (service.live zone begun beats).outcomes.map (·.statesTaken) =
          ((service.done zone beats).map fun beat => statesAdmits beat.faults.states) ∧
      match lastTaken (·.statesTaken) (service.live zone begun beats).outcomes with
      | none => service.stores.states.cell (service.live zone begun beats).trace.disk =
          service.stores.states.cell begun.disk
      | some outcome =>
          service.stores.states.cell (service.live zone begun beats).trace.disk =
              some outcome.engine.savedStates.toText ∧
            (service.stores.states.read (service.live zone begun beats).trace.disk).2 =
              .ok outcome.engine.savedStates := by
  obtain ⟨kind, allowanceAdmits, statesAdmits, terms, sound, held⟩ :=
    sound_of_start numbered started
  refine ⟨allowanceAdmits, statesAdmits, fun beats => ⟨length_outcomes zone service begun beats,
    done_eq_self, engine_live zone service begun beats, fun _ _ found => engine_of_outcome found,
    fun store given => ?_, ?_⟩⟩
  · exact live_allowance sound held given zone beats
  · exact live_states sound held zone beats

/-- The configuration of an hour a day and of a rule that starts with the service. -/
def eveningDisk : Disk where
  entries := .ofList [("/c", .file 0 (.text ("config_version = 1\nallowance = [60]\n" ++
    "[[rules]]\nid = \"focus\"\nactivator = [\"always\"]\n" ++
    "protector = [\"countdown\", 90, true]\n")))]
  nextNumber := 1

def eveningSetup : Setup where
  configFile := "/c"
  dataDir := some "/d"
  defaultDataDir := "/"
  freshId _ := ""

/-- Two ticks and the stop.  The rename of the second draft of the allowance fails, and the third
draft is cut short; the write of the states fails at the stop. -/
def eveningBeats : List Beat :=
  [{ now := ⟨60000, by decide, by decide⟩ },
    { now := ⟨120000, by decide, by decide⟩, faults := { allowance := some ⟨2, none⟩ } },
    { now := ⟨180000, by decide, by decide⟩, isStop := true
      faults := ⟨some ⟨1, some (.text "[3600")⟩, some ⟨0, none⟩⟩ }]

theorem numbered_eveningDisk : eveningDisk.Numbered := by
  have only {key : String} {number : Nat} {content : Content}
      (found : eveningDisk.entries.get? key = some (.file number content)) :
      key = "/c" ∧ number = 0 := by
    have member := Table.get?_eq_some_iff.mp found
    simp only [show eveningDisk.entries.entries = [("/c", _)] from rfl, List.mem_singleton,
      Prod.mk.injEq, Entry.file.injEq] at member
    exact ⟨member.1, member.2.1⟩
  refine ⟨fun found => ?_, fun found again => (only found).1.trans (only again).1.symm⟩
  rw [(only found).2]
  exact Nat.zero_lt_one

/-- After `live` the allowance store holds the first tick, and the other one the states of the
second. -/
theorem evening_stored :
    ∃ service begun store, Service.start .utc eveningSetup .epoch { disk := eveningDisk } =
        (.ok service, begun) ∧ service.stores.allowance = some store ∧
      store.cell (service.live .utc begun eveningBeats).trace.disk =
        some "[3600000,3540000,60000]" ∧
      (store.read (service.live .utc begun eveningBeats).trace.disk).2 =
        .ok ⟨⟨3600000, by decide⟩, ⟨⟨3540000, by decide⟩, ⟨60000, by decide, by decide⟩⟩⟩ ∧
      (service.stores.states.read (service.live .utc begun eveningBeats).trace.disk).2 =
        .ok (Table.ofList [("focus", .running ⟨5280000, 120000, by decide, by decide⟩)]) := by
  have ran : (Service.start .utc eveningSetup .epoch { disk := eveningDisk }).1.toOption.any
      (fun service =>
        let life := service.live .utc
          (Service.start .utc eveningSetup .epoch { disk := eveningDisk }).2 eveningBeats
        decide (service.stores.allowance.isSome = true ∧
          (lastTaken (·.allowanceTaken) life.outcomes).map
              (fun outcome => (outcome.now, outcome.engine.allowance)) =
            some (⟨60000, by decide, by decide⟩, some ⟨⟨3600000, by decide⟩,
              ⟨⟨3540000, by decide⟩, ⟨60000, by decide, by decide⟩⟩⟩) ∧
          (lastTaken (·.statesTaken) life.outcomes).map (·.engine.savedStates) =
            some (Table.ofList [("focus", .running ⟨5280000, 120000, by decide, by decide⟩)]))) =
      true := by
    decide +kernel
  cases started : Service.start .utc eveningSetup .epoch { disk := eveningDisk } with
  | mk outcome begun =>
      rw [started] at ran
      cases outcome with
      | error reason => contradiction
      | ok service =>
          obtain ⟨given, allowance, states⟩ := of_decide_eq_true ran
          obtain ⟨store, given⟩ := Option.isSome_iff_exists.mp given
          obtain ⟨taken, lastTaken, same⟩ := Option.map_eq_some_iff.mp allowance
          obtain ⟨takenToo, lastTakenToo, sameToo⟩ := Option.map_eq_some_iff.mp states
          have text : AllowanceTracker.toText ⟨⟨3600000, by decide⟩,
              ⟨⟨3540000, by decide⟩, ⟨60000, by decide, by decide⟩⟩⟩ =
                "[3600000,3540000,60000]" := by
            decide +kernel
          obtain ⟨_, _, run⟩ := stored_of_start numbered_eveningDisk started
          obtain ⟨_, _, _, _, stored, _, storedToo⟩ := run eveningBeats
          obtain ⟨_, stored⟩ := stored store given
          rw [lastTaken] at stored
          rw [lastTakenToo] at storedToo
          obtain ⟨tracker, has, cell, read⟩ := stored
          obtain ⟨now, held⟩ := Prod.mk.inj same
          cases held.symm.trans has
          refine ⟨service, begun, store, rfl, given, cell.trans (congrArg some text), ?_, ?_⟩
          · exact read (now ▸ by decide)
          · exact sameToo ▸ storedToo.2

end Service

end Curfew
