import Curfew.Disk.Step
import Curfew.Proofs.Disk.Tree

namespace Curfew.Disk

/-! What single steps change, and what is left of several when one of them fails. -/

variable {disk next : Disk} {location origin : Location} {path source target : String}
  {content : Content} {fault : Option Fault}

theorem putContent_eq (disk : Disk) (location : Location) (content : Content) :
    ∃ number, (disk.putContent location content).entries =
        disk.entries.insert location.text (.file number content) ∧
      (disk.putContent location content).workingDirectory = disk.workingDirectory := by
  unfold putContent
  split <;> exact ⟨_, rfl, rfl⟩

theorem sameDirectories_of_insert {number : Nat}
    (notDirectory : disk.entry? location ≠ some .directory)
    (entries : next.entries = disk.entries.insert location.text (.file number content))
    (workingDirectory : next.workingDirectory = disk.workingDirectory) :
    SameDirectories disk next where
  directory key := by
    rw [entries, Table.get?_insert]
    split
    · rename_i same
      have below : location ≠ [] := by
        rintro rfl
        exact notDirectory rfl
      rw [entry?_of_ne_nil _ below, same] at notDirectory
      simp [notDirectory]
    · rfl
  workingDirectory := workingDirectory

theorem putFile_eq_ok_iff :
    disk.putFile path content = .ok next ↔
      ∃ location, disk.locate path = .ok location ∧ disk.entry? location ≠ some .directory ∧
        next = disk.putContent location content := by
  unfold putFile
  cases disk.locate path with
  | error reason => simp [bind, Except.bind]
  | ok location =>
      simp only [bind, Except.bind, Except.ok.injEq, exists_eq_left']
      split
      · rename_i here
        simp [here, throw, throwThe, MonadExceptOf.throw]
      · rename_i notDirectory
        have notDirectory : disk.entry? location ≠ some .directory := notDirectory
        simp only [pure, Except.pure, Except.ok.injEq]
        exact ⟨fun same => ⟨notDirectory, same.symm⟩, fun both => both.2.symm⟩

/-- `putFile` changes the entry at one location, and no directory. -/
theorem putFile_eq_ok (put : disk.putFile path content = .ok next) :
    ∃ location number, disk.locate path = .ok location ∧ SameDirectories disk next ∧
      ∀ key, next.entries.get? key =
        if location.text = key then some (.file number content) else disk.entries.get? key := by
  obtain ⟨location, located, notDirectory, rfl⟩ := putFile_eq_ok_iff.mp put
  obtain ⟨number, entries, workingDirectory⟩ := putContent_eq disk location content
  have directories := sameDirectories_of_insert notDirectory entries workingDirectory
  refine ⟨location, number, located, directories, fun key => ?_⟩
  rw [entries, Table.get?_insert]

/-- The disk of which the file at a location has been taken away, in the middle of `rename`. -/
def vacated (disk : Disk) (origin : Location) : Disk :=
  { disk with entries := disk.entries.erase origin.text }

theorem rename_eq_ok_iff {number : Nat} (located : disk.locate source = .ok origin)
    (found : disk.entry? origin = some (.file number content)) :
    disk.rename source target = .ok next ↔
      ∃ location, (disk.vacated origin).locate target = .ok location ∧
        Disk.entry? (disk.vacated origin) location ≠ some .directory ∧
        next = ((disk.vacated origin).detach location).put location (.file number content) := by
  have onTheWay : ({ disk with entries := disk.entries.erase origin.text } : Disk) =
      disk.vacated origin := rfl
  unfold rename
  simp only [located, found, bind, Except.bind, onTheWay]
  cases (disk.vacated origin).locate target with
  | error reason => simp
  | ok location =>
      simp only [Except.ok.injEq, exists_eq_left']
      split
      · rename_i here
        simp [here, throw, throwThe, MonadExceptOf.throw]
      · rename_i notDirectory
        have notDirectory : Disk.entry? (disk.vacated origin) location ≠ some .directory :=
          notDirectory
        simp only [pure, Except.pure, Except.ok.injEq]
        exact ⟨fun same => ⟨notDirectory, same.symm⟩, fun both => both.2.symm⟩

theorem sameDirectories_vacated {number : Nat}
    (found : disk.entry? origin = some (.file number content)) :
    SameDirectories disk (disk.vacated origin) where
  directory key := by
    have below : origin ≠ [] := by
      rintro rfl
      cases found
    rw [entry?_of_ne_nil _ below] at found
    simp only [vacated, Table.get?_erase]
    split
    · rename_i same
      rw [same] at found
      simp [found]
    · rfl
  workingDirectory := rfl

theorem detach_eq (disk : Disk) (location : Location) :
    (disk.detach location).entries = disk.entries ∧
      (disk.detach location).workingDirectory = disk.workingDirectory := by
  unfold detach
  split <;> exact ⟨rfl, rfl⟩

/-- `rename` of a file changes the entries at two locations, and no directory. -/
theorem rename_eq_ok {number : Nat} (located : disk.locate source = .ok origin)
    (found : disk.entry? origin = some (.file number content))
    (renamed : disk.rename source target = .ok next) :
    ∃ location, disk.locate target = .ok location ∧ SameDirectories disk next ∧
      ∀ key, next.entries.get? key =
        if location.text = key then some (.file number content)
        else if origin.text = key then none else disk.entries.get? key := by
  obtain ⟨location, onTheWay, notDirectory, rfl⟩ := (rename_eq_ok_iff located found).mp renamed
  obtain ⟨entries, workingDirectory⟩ := detach_eq (disk.vacated origin) location
  have vacated := sameDirectories_vacated found
  have put : SameDirectories (disk.vacated origin)
      (((disk.vacated origin).detach location).put location (.file number content)) :=
    sameDirectories_of_insert notDirectory (by rw [put, entries]) workingDirectory
  refine ⟨location, vacated.symm.toExtends.locate onTheWay, vacated.trans put, fun key => ?_⟩
  rw [Disk.put, entries, Disk.vacated, Table.get?_insert, Table.get?_erase]

theorem runSteps_cons_now {path : String} {step : Step} {rest : List (String × Step)}
    {fault : Fault} (now : fault.step = 0) :
    runSteps (some fault) disk ((path, step) :: rest) =
      (step.interrupted disk fault.written, .error path) := by
  have here : (some fault).filter (fun fault => fault.step == 0) = some fault := by simp [now]
  rw [runSteps, here]

theorem runSteps_cons_later {path : String} {step : Step} {rest : List (String × Step)}
    (later : ∀ fault' ∈ fault, fault'.step ≠ 0) :
    runSteps fault disk ((path, step) :: rest) =
      match step.run disk with
      | .ok next => runSteps (fault.map Fault.shifted) next rest
      | .error _ => (disk, .error path) := by
  have notHere : fault.filter (fun fault => fault.step == 0) = none := by
    simpa [Option.filter_eq_none_iff] using later
  cases ran : step.run disk <;> simp [runSteps, notHere, ran]

theorem runSteps_append (fault : Option Fault) (disk : Disk) (first second : List (String × Step)) :
    runSteps fault disk (first ++ second) =
      match runSteps fault disk first with
      | (next, .ok ()) =>
          runSteps (fault.map fun fault => { fault with step := fault.step - first.length })
            next second
      | failed => failed := by
  induction first generalizing fault disk with
  | nil => cases fault <;> rfl
  | cons entry rest ih =>
      obtain ⟨path, step⟩ := entry
      simp only [List.cons_append, runSteps]
      split
      · rfl
      · cases step.run disk with
        | error reason => rfl
        | ok next =>
            simp only [ih, Option.map_map]
            have shifts : (fun fault : Fault => { fault with step := fault.step - rest.length }) ∘
                Fault.shifted = fun fault => { fault with step := fault.step - (rest.length + 1) } := by
              funext fault
              simp [Fault.shifted, Nat.sub_sub, Nat.add_comm]
            rw [shifts]
            rfl

/-- `runSteps` succeeds under a fault if and only if the fault comes after the steps and they
succeed without it. -/
theorem runSteps_eq_ok_iff {steps : List (String × Step)} :
    runSteps fault disk steps = (next, .ok ()) ↔
      (∀ fault' ∈ fault, steps.length ≤ fault'.step) ∧
        runSteps none disk steps = (next, .ok ()) := by
  induction steps generalizing fault disk with
  | nil => simp [runSteps]
  | cons entry rest ih =>
      obtain ⟨path, step⟩ := entry
      -- A fault at this step fails it; any other comes one step nearer.
      by_cases now : ∃ fault' ∈ fault, fault'.step = 0
      · obtain ⟨fault, rfl, now⟩ := now
        rw [runSteps_cons_now now]
        simp [now]
      · have later : ∀ fault' ∈ fault, fault'.step ≠ 0 := fun fault' present zero =>
          now ⟨fault', present, zero⟩
        have never : ∀ fault' ∈ (none : Option Fault), fault'.step ≠ 0 := by simp
        rw [runSteps_cons_later later, runSteps_cons_later never]
        cases step.run disk with
        | error reason => simp
        | ok next' =>
            change runSteps (fault.map Fault.shifted) next' rest = _ ↔
              _ ∧ runSteps none next' rest = _
            rw [ih]
            refine and_congr_left fun _ => ?_
            cases fault with
            | none => simp
            | some fault =>
                have positive := later fault rfl
                simp [Fault.shifted]
                omega

/-- What every step keeps, and every step that is cut short, `runSteps` keeps under any fault. -/
theorem runSteps_keeps (kept : Disk → Prop) {steps : List (String × Step)}
    (ran : ∀ entry ∈ steps, ∀ disk next, kept disk → entry.2.run disk = .ok next → kept next)
    (cut : ∀ entry ∈ steps, ∀ disk written, kept disk → kept (entry.2.interrupted disk written))
    (before : kept disk) : kept (runSteps fault disk steps).1 := by
  induction steps generalizing fault disk with
  | nil => exact before
  | cons entry rest ih =>
      obtain ⟨path, step⟩ := entry
      simp only [runSteps]
      split
      · exact cut _ (.head _) disk _ before
      · cases done : step.run disk with
        | error reason => exact before
        | ok next =>
            exact ih (fun entry member => ran entry (.tail _ member))
              (fun entry member => cut entry (.tail _ member)) (ran _ (.head _) disk next before done)

theorem interrupted_none (disk : Disk) (step : Step) : step.interrupted disk none = disk := by
  cases step <;> rfl

theorem runSteps_single {step : Step} {outcome : Except String Unit}
    (ran : runSteps fault disk [(path, step)] = (next, outcome)) :
    outcome = .ok () ∧ step.run disk = .ok next ∨
      outcome = .error path ∧ ∃ written, next = step.interrupted disk written := by
  by_cases now : ∃ fault' ∈ fault, fault'.step = 0
  · obtain ⟨fault, rfl, now⟩ := now
    rw [runSteps_cons_now now] at ran
    obtain ⟨rfl, rfl⟩ := Prod.mk.inj ran
    exact .inr ⟨rfl, fault.written, rfl⟩
  · have later : ∀ fault' ∈ fault, fault'.step ≠ 0 := fun fault' present zero =>
      now ⟨fault', present, zero⟩
    rw [runSteps_cons_later later] at ran
    cases done : step.run disk with
    | error reason =>
        rw [done] at ran
        obtain ⟨rfl, rfl⟩ := Prod.mk.inj ran
        exact .inr ⟨rfl, none, (interrupted_none disk step).symm⟩
    | ok next' =>
        simp only [done, runSteps] at ran
        obtain ⟨rfl, rfl⟩ := Prod.mk.inj ran
        exact .inl ⟨rfl, rfl⟩

theorem run_of_runSteps {step : Step} (ran : runSteps fault disk [(path, step)] = (next, .ok ())) :
    step.run disk = .ok next := by
  rcases runSteps_single ran with ⟨_, done⟩ | ⟨failed, _⟩
  · exact done
  · cases failed

/-- A `writeText` that does not come to its end may have left any content in the file. -/
theorem runSteps_writeText {text reason : String}
    (ran : runSteps fault disk [(path, .writeText source text)] = (next, .error reason)) :
    next = disk ∨ ∃ content, disk.putFile source content = .ok next := by
  rcases runSteps_single ran with ⟨done, _⟩ | ⟨_, written, rfl⟩
  · cases done
  simp only [Step.interrupted]
  split
  · rename_i put
    obtain ⟨content, _, put⟩ := Option.map_eq_some_iff.mp put
    exact .inr ⟨content, put⟩
  · exact .inl rfl

/-- A `rename` that does not succeed leaves the disk as it was. -/
theorem runSteps_rename {reason : String}
    (ran : runSteps fault disk [(path, .rename source target)] = (next, .error reason)) :
    next = disk := by
  rcases runSteps_single ran with ⟨done, _⟩ | ⟨_, written, left⟩
  · cases done
  · exact left

theorem followPath_of_not_followable (some : path ≠ "") (impossible : ¬ Path.Followable path) :
    disk.followPath path = .error .impossiblePath := by
  have refused : path.toList.contains '\x00' = true ∨ path.utf8ByteSize > Path.maxWidth := by
    refine Decidable.byContradiction fun possible => impossible ?_
    obtain ⟨clean, fits⟩ := not_or.mp possible
    exact ⟨some, by simpa using clean, Nat.not_lt.mp fits⟩
  unfold followPath
  rw [if_neg (by simpa using some), if_pos (by simpa using refused)]

theorem makeDirectory_eq_ok (made : disk.makeDirectory path = .ok next) :
    ∃ location, disk.followPath path = .ok location ∧
      (disk.entry? location = some .directory ∧ next = disk ∨
        disk.entry? location = none ∧ next = disk.put location .directory) := by
  unfold makeDirectory at made
  simp only [bind, Except.bind] at made
  split at made
  all_goals
    split at made
    · cases made
    rename_i location reached
    refine ⟨location, ?_, ?_⟩
    · first
      | exact reached
      | exact (locate_eq_ok_iff.mp reached).1
    split at made
    · rename_i missing
      cases made
      exact .inr ⟨missing, rfl⟩
    · rename_i here
      cases made
      exact .inl ⟨here, rfl⟩
    · cases made

theorem extends_put_directory (disk : Disk) (location : Location) :
    Extends disk (disk.put location .directory) where
  directory other found := by
    cases other with
    | nil => rfl
    | cons first rest =>
        change (disk.entries.insert location.text .directory).get? _ = _
        rw [Table.get?_insert]
        split
        · rfl
        · exact found
  workingDirectory := rfl

theorem reaches_of_makeDirectory (made : disk.makeDirectory path = .ok next) :
    ∃ location, next.Reaches path location := by
  obtain ⟨location, followed, ⟨here, rfl⟩ | ⟨missing, rfl⟩⟩ := makeDirectory_eq_ok made
  · exact ⟨location, (followPath_eq_ok_iff.mp followed).2, .inr here⟩
  · have below : location ≠ [] := by
      intro root
      simp [root, entry?] at missing
    have followed := (extends_put_directory disk location).followPath followed
    exact ⟨location, (followPath_eq_ok_iff.mp followed).2,
      .inr (entry?_put_self disk below .directory)⟩

/-- `makeDirectory` on a directory that is there changes nothing. -/
theorem makeDirectory_of_reaches (reaches : disk.Reaches path location) (some : path ≠ "") :
    disk.makeDirectory path = .ok disk ∧ Path.Followable path ∨
      disk.makeDirectory path = .error .impossiblePath ∧ ¬ Path.Followable path := by
  have here : disk.entry? location = .some .directory := reaches.isDirectory.resolve_left some
  by_cases followable : Path.Followable path
  · have followed : disk.followPath path = .ok location :=
      followPath_eq_ok_iff.mpr ⟨followable, reaches.followed⟩
    have located : disk.locate path = .ok location :=
      locate_eq_ok_iff.mpr ⟨followed, fun _ => here⟩
    refine .inl ⟨?_, followable⟩
    unfold makeDirectory
    split <;> simp [followed, located, here, bind, Except.bind, pure, Except.pure]
  · have refused : disk.followPath path = _ := followPath_of_not_followable some followable
    refine .inr ⟨?_, followable⟩
    unfold makeDirectory
    split <;> simp [locate, refused, bind, Except.bind]

theorem directorySteps_of_reaches (reaches : disk.Reaches path location) :
    disk.directorySteps path =
      if Path.ancestors path = [] then [] else [(path, .makeDirectory path)] := by
  unfold directorySteps
  rcases Path.ancestors_eq_nil_or_cons path with none | ⟨above, some⟩
  · simp [none]
  · have named : path ≠ "" := by
      rintro rfl
      simp [Path.ancestors_empty] at some
    rw [some, if_neg (List.cons_ne_nil _ _)]
    rcases makeDirectory_of_reaches reaches named with ⟨made, _⟩ | ⟨refused, _⟩
    · simp [made]
    · simp [refused]

/-- The `directorySteps` of a path are those of the missing directories, outermost first. -/
theorem directorySteps_eq (disk : Disk) (path : String) :
    Path.ancestors path = [] ∧ disk.directorySteps path = [] ∨
      ∃ above : List String, disk.directorySteps path =
        (above ++ [path]).map fun directory => (path, .makeDirectory directory) := by
  unfold directorySteps
  rcases Path.ancestors_eq_nil_or_cons path with none | ⟨above, some⟩
  · exact .inl ⟨none, by simp [none]⟩
  · right
    simp only [some, List.take_succ_cons, List.reverse_cons]
    exact ⟨_, rfl⟩

theorem makeDirectory_of_directorySteps
    (made : runSteps none disk (disk.directorySteps path) = (next, .ok ())) :
    Path.ancestors path = [] ∨ ∃ between, makeDirectory between path = .ok next := by
  rcases directorySteps_eq disk path with ⟨none, _⟩ | ⟨above, steps⟩
  · exact .inl none
  · rw [steps, List.map_append, runSteps_append] at made
    split at made
    · rename_i between _
      rw [Option.map_none, List.map_singleton, runSteps_cons_later (by simp)] at made
      cases last : between.makeDirectory path with
      | error reason => simp [Step.run, last] at made
      | ok final =>
          obtain rfl : final = next := by simpa [Step.run, last, runSteps] using made
          exact .inr ⟨between, last⟩
    · rename_i failed
      rw [made] at failed
      exact absurd rfl (failed next)

/-- When all `directorySteps` of a path have succeeded, the path leads to a directory. -/
theorem reaches_of_directorySteps
    (made : runSteps none disk (disk.directorySteps path) = (next, .ok ())) :
    ∃ location, next.Reaches path location := by
  rcases makeDirectory_of_directorySteps made with none | ⟨between, last⟩
  · rcases Path.ancestors_eq_nil none with rfl | ⟨absolute, root⟩
    · exact ⟨next.workingDirectory, rfl, .inl rfl⟩
    · refine ⟨[], ?_, .inr rfl⟩
      simp [startOf, absolute, root, follow]
  · exact reaches_of_makeDirectory last

theorem followable_of_directorySteps
    (made : runSteps none disk (disk.directorySteps path) = (next, .ok ())) :
    Path.ancestors path = [] ∨ Path.Followable path := by
  refine (makeDirectory_of_directorySteps made).imp_right fun ⟨between, last⟩ => ?_
  obtain ⟨_, followed, _⟩ := makeDirectory_eq_ok last
  exact (followPath_eq_ok_iff.mp followed).1

theorem runSteps_directorySteps (reaches : disk.Reaches path location) :
    runSteps none disk (disk.directorySteps path) =
      (disk, if Path.ancestors path = [] ∨ Path.Followable path then .ok () else .error path) := by
  rw [directorySteps_of_reaches reaches]
  by_cases none : Path.ancestors path = []
  · simp [none, runSteps]
  · have named : path ≠ "" := by
      rintro rfl
      exact none Path.ancestors_empty
    rw [if_neg none, runSteps_cons_later (by simp)]
    simp only [Step.run]
    rcases makeDirectory_of_reaches reaches named with ⟨made, followable⟩ | ⟨refused, impossible⟩
    · simp [made, followable, runSteps]
    · simp [refused, none, impossible]

theorem runSteps_pair_eq_ok_iff {first second : String × Step} :
    runSteps none disk [first, second] = (next, .ok ()) ↔
      ∃ between, first.2.run disk = .ok between ∧ second.2.run between = .ok next := by
  obtain ⟨firstPath, first⟩ := first
  obtain ⟨secondPath, second⟩ := second
  rw [runSteps_cons_later (by simp)]
  cases first.run disk with
  | error reason => simp
  | ok between =>
      simp only [Option.map_none, Except.ok.injEq, exists_eq_left']
      rw [runSteps_cons_later (by simp)]
      cases second.run between <;> simp [runSteps]

end Curfew.Disk
