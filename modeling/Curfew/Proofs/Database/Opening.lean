import Curfew.Proofs.Database.Access

namespace Curfew.Disk

/-! Databases that are opened, once or again under the same name. -/

variable {disk between next : Disk} {location : Location} {number handle : Nat} {isLogged : Bool}
  {content : Content} {connection : FileConnection} {name : DatabaseName} {text : String}

/-- The location that a path to a database leads to, if it leads anywhere. -/
def databaseTarget (workingDirectory : Location) (path : String) : Location :=
  (Path.names path).foldl
    (fun location name => if name = ".." then location.dropLast else location ++ [name])
    (if Path.isAbsolute path then [] else workingDirectory)

theorem databaseLocation?_eq_some {path : String}
    (found : disk.databaseLocation? path = some location) :
    location = databaseTarget disk.workingDirectory path ∧ location ≠ [] := by
  have followed (names : List String) (start : Location) {reached : Location}
      (passed : names.foldlM (fun location name =>
        if name = ".." then some location.dropLast
        else if disk.passable (location ++ [name]) then some (location ++ [name])
        else none) start = some reached) :
      reached = names.foldl
        (fun location name => if name = ".." then location.dropLast else location ++ [name])
        start := by
    induction names generalizing start with
    | nil => simpa using passed.symm
    | cons name rest ih =>
        rw [List.foldlM_cons, Option.bind_eq_bind, Option.bind_eq_some_iff] at passed
        obtain ⟨step, here, onwards⟩ := passed
        rw [List.foldl_cons, ih step onwards]
        split at here
        · rename_i up
          cases here
          rw [if_pos up]
        · rename_i down
          split at here
          · cases here
            rw [if_neg down]
          · contradiction
  unfold databaseLocation? at found
  simp only [Option.bind_eq_bind, Option.bind_eq_some_iff] at found
  obtain ⟨reached, passed, usable⟩ := found
  split at usable
  · rename_i some
    cases usable
    exact ⟨followed _ _ passed, some.1⟩
  · contradiction

/-- `openFile?` opens a file with a number of its own, making one if there is none. -/
theorem openFile?_eq_some {mode : DatabaseMode} (numbered : disk.Numbered) (below : location ≠ [])
    (opened : disk.openFile? mode location = some (next, number)) :
    next.Numbered ∧ (∃ content, next.entry? location = some (.file number content)) ∧
      next.connections = disk.connections ∧ next.workingDirectory = disk.workingDirectory := by
  unfold openFile? at opened
  split at opened
  · contradiction
  · rename_i found
    cases opened
    exact ⟨numbered, ⟨_, found⟩, rfl, rfl⟩
  · rename_i missing
    split at opened
    · cases opened
      refine ⟨numbered.putContent below, ⟨.text "", ?_⟩, ?_, ?_⟩ <;>
        simp only [putContent, missing]
      · exact entry?_put_self _ below _
      · rfl
      · rfl
    · contradiction

/-- Another disk on which at most the files beside a database differ. -/
structure Beside (location : Location) (before after : Disk) : Prop where
  numbered : before.Numbered → after.Numbered
  placed : after.entry? location = before.entry? location
  connections : after.connections = before.connections
  workingDirectory : after.workingDirectory = before.workingDirectory

theorem Beside.refl (location : Location) (disk : Disk) : Beside location disk disk :=
  ⟨id, rfl, rfl, rfl⟩

theorem Beside.trans (first : Beside location disk between)
    (second : Beside location between next) : Beside location disk next :=
  ⟨second.numbered ∘ first.numbered, second.placed.trans first.placed,
    second.connections.trans first.connections,
    second.workingDirectory.trans first.workingDirectory⟩

theorem beside_remove (below : location ≠ []) {ending : String} (some : ending ≠ "")
    (disk : Disk) : Beside location disk (disk.remove (location.beside ending)) where
  numbered numbered := numbered.remove _
  placed := by rw [entry?_remove _ below, if_neg (Location.text_beside_ne below some)]
  connections := (remove_eq ..).2.1
  workingDirectory := (remove_eq ..).2.2

theorem beside_putContent (below : location ≠ []) {ending : String} (some : ending ≠ "")
    (disk : Disk) (content : Content) :
    Beside location disk (disk.putContent (location.beside ending) content) where
  numbered numbered := numbered.putContent (Location.beside_ne_nil below _)
  placed := entry?_putContent_of_ne _ below (Location.text_beside_ne below some)
  connections := by
    unfold putContent
    split <;> rfl
  workingDirectory := by
    unfold putContent
    split <;> rfl

/-- The first `refresh` through a connection leaves the database settled. -/
theorem settled_of_refresh (numbered : disk.Numbered) (below : location ≠ [])
    (placed : disk.entry? location = some (.file number content)) {isWritable : Bool}
    (journal : disk.settleJournal? { location, number, isWritable } content = some between)
    (log : between.settleLog? { location, number, isWritable } content =
      some (next, isLogged)) :
    Beside location disk next ∧ (isLogged = true → content.isBlank = false) ∧
      (next.entry? (location.beside "-journal") ≠ some .directory ∨ content.isBlank = false →
        next.HasDatabase location number content isLogged) := by
  obtain ⟨journalChange, journalState⟩ := settleJournal?_eq_some below journal
  obtain ⟨logChange, logState, notBlank⟩ := settleLog?_eq_some below log
  have first : Beside location disk between := by
    rcases journalChange with rfl | rfl
    · exact .refl _ _
    · exact beside_remove below (by decide) disk
  have second : Beside location between next := by
    rcases logChange with rfl | rfl | rfl
    · exact .refl _ _
    · exact beside_remove below (by decide) between
    · exact beside_putContent below (by decide) between _
  have sameJournal : next.entry? (location.beside "-journal") =
      between.entry? (location.beside "-journal") := by
    have besideJournal := Location.beside_ne_nil below "-journal"
    have apart {ending : String} (different : ending ≠ "-journal") :
        (location.beside ending).text ≠ (location.beside "-journal").text :=
      fun same => different (Location.text_beside_inj below same)
    rcases logChange with rfl | rfl | rfl
    · rfl
    · exact (entry?_remove _ besideJournal).trans (if_neg (apart (by decide)))
    · exact entry?_putContent_of_ne _ besideJournal (apart (by decide))
  refine ⟨first.trans second, notBlank, fun usable => ⟨second.numbered (first.numbered numbered),
    below, ?_, ?_, logState⟩⟩
  · rw [second.placed, first.placed, placed]
  · rw [sameJournal]
    refine journalState.resolve_right fun blocked => ?_
    rcases usable with free | whole
    · exact free (sameJournal.trans blocked.2)
    · simp [whole] at blocked

theorem refresh_new (numbered : disk.Numbered) (below : location ≠ [])
    (placed : disk.entry? location = some (.file number content)) {isWritable seen : Bool}
    (looked : disk.refresh { location, number, isWritable } = (next, connection, seen))
    (readable : connection.view ≠ .unread) :
    ∃ between isLogged,
      disk.settleJournal? { location, number, isWritable } content = some between ∧
      between.settleLog? { location, number, isWritable } content = some (next, isLogged) ∧
      connection =
        { ({ location, number, isWritable } : FileConnection).seeing content with isLogged } := by
  have held : disk.contentOf number = content := by
    rw [entry?_of_ne_nil _ below] at placed
    exact contentOf_eq numbered placed
  simp only [refresh, held, Bool.false_eq_true, if_false] at looked
  cases journal : disk.settleJournal? { location, number, isWritable } content with
  | none =>
      simp only [journal, Prod.mk.injEq] at looked
      obtain ⟨_, rfl, _⟩ := looked
      contradiction
  | some between =>
      cases log : between.settleLog? { location, number, isWritable } content with
      | none =>
          simp only [journal, log, Prod.mk.injEq] at looked
          obtain ⟨_, rfl, _⟩ := looked
          contradiction
      | some settled =>
          obtain ⟨settled, isLogged⟩ := settled
          simp only [journal, log, Prod.mk.injEq] at looked
          obtain ⟨rfl, rfl, _⟩ := looked
          exact ⟨between, isLogged, rfl, log, rfl⟩

theorem getElem?_addConnection (disk : Disk) (connection : Connection) :
    (disk.addConnection connection).1.connections[disk.connections.length]? = some connection := by
  simp [addConnection]

theorem seeing_new {isWritable : Bool}
    (seen : connection =
      { ({ location, number, isWritable } : FileConnection).seeing content with isLogged }) :
    (connection.view = .unread ∨ connection.view = .blank ∧ content.isBlank = true ∨
        ∃ rows changes, content = .database rows changes ∧ connection.view = .table none ∧
          connection.changes = changes) ∧
      IsTo connection location number isLogged ∧ connection.isWritable = isWritable := by
  obtain ⟨sameNumber, _, sameLocation, sameWritable⟩ :=
    FileConnection.seeing_settings { location, number, isWritable } content
  subst seen
  refine ⟨?_, ⟨sameLocation, sameNumber, rfl⟩, sameWritable⟩
  cases content with
  | database rows changes => exact .inr (.inr ⟨rows, changes, rfl, by simp [FileConnection.seeing]⟩)
  | text letters =>
      by_cases blank : (Content.text letters).isBlank = true
      · exact .inr (.inl ⟨by simp [FileConnection.seeing, blank], blank⟩)
      · exact .inl (by simp [FileConnection.seeing, blank])
  | binary size =>
      by_cases blank : (Content.binary size).isBlank = true
      · exact .inr (.inl ⟨by simp [FileConnection.seeing, blank], blank⟩)
      · exact .inl (by simp [FileConnection.seeing, blank])

theorem putRows?_eq_some {rows : Table String}
    (found : disk.connections[handle]? = some (.file connection))
    (put : disk.putRows? handle rows = some next) :
    disk.canChange connection = true ∧ next = disk.changeRows handle connection rows := by
  simp only [putRows?, found] at put
  split at put
  · rename_i possible
    exact ⟨possible, (Option.some.inj put).symm⟩
  · contradiction

theorem workingDirectory_changeRows (disk : Disk) (handle : Nat) (connection : FileConnection)
    (rows : Table String) :
    (disk.changeRows handle connection rows).workingDirectory = disk.workingDirectory := by
  unfold changeRows putConnection overwrite
  simp only
  split
  · rfl
  · exact (remove_eq ..).2.2

/-- The table is made in a blank file, if the file can be changed. -/
theorem shares_of_blank (connected : disk.connections[handle]? = some (.file connection))
    (isTo : IsTo connection location number false)
    (has : disk.entry? (location.beside "-journal") ≠ some .directory →
      disk.HasDatabase location number content false)
    (put : disk.putRows? handle .empty = some next) :
    ∃ changes, next.connections[handle]? = some (.file (connection.upTo .empty changes)) ∧
      next.Shares [handle] location number false
        (next.canChange (connection.upTo .empty changes)) .empty changes := by
  obtain ⟨possible, rfl⟩ := putRows?_eq_some connected put
  have free : disk.entry? (location.beside "-journal") ≠ some .directory := by
    simp only [canChange, isTo.isLogged, FileConnection.journal, isTo.location, Bool.and_eq_true,
      Bool.false_eq_true, if_false, decide_eq_true_eq] at possible
    exact possible.2.1.2
  have within : handle < disk.connections.length := (List.getElem?_eq_some_iff.mp connected).1
  have connectedAfter := (congrArg (·[handle]?)
    (connections_changeRows disk handle connection .empty)).trans (List.getElem?_set_self within)
  exact ⟨_, connectedAfter, shares_single
    (hasDatabase_changeRows (has free) isTo.location isTo.number .empty) connectedAfter
    ⟨isTo.location, isTo.number, isTo.isLogged⟩ (connection.knows_upTo ..)⟩

/-- `openDatabaseFile` leaves a settled database, which the new connection shares with no other. -/
theorem shares_of_openDatabaseFile (numbered : disk.Numbered) (below : location ≠ [])
    (opened : disk.openDatabaseFile name location = (next, some handle)) :
    next.workingDirectory = disk.workingDirectory ∧
      ∃ number isLogged changeable rows changes connection,
        next.Shares [handle] location number isLogged changeable rows changes ∧
        next.connections[handle]? = some (.file connection) ∧
        connection.isWritable = name.isWritable := by
  unfold openDatabaseFile at opened
  cases file : disk.openFile? name.mode location with
  | none => simp [file] at opened
  | some found =>
      obtain ⟨found, number⟩ := found
      obtain ⟨numbered, ⟨content, placed⟩, connections, workingDirectory⟩ :=
        openFile?_eq_some numbered below file
      cases looked : found.refresh { location, number, isWritable := name.isWritable } with
      | mk settled rest =>
          obtain ⟨connection, seen⟩ := rest
          simp only [file, looked] at opened
          have readable : connection.view ≠ .unread := by
            intro unread
            simp [unread] at opened
          obtain ⟨between, isLogged, journal, log, made⟩ :=
            refresh_new numbered below placed looked readable
          obtain ⟨beside, notBlank, hasDatabase⟩ :=
            settled_of_refresh numbered below placed journal log
          obtain ⟨views, isTo, writable⟩ := seeing_new made
          have connected := getElem?_addConnection settled (.file connection)
          rcases views with unread | ⟨view, blank⟩ | ⟨rows, changes, rfl, view, counted⟩
          · contradiction
          · -- A blank file has no log, so its table is put into the file itself.
            have unlogged : isLogged = false := by
              cases isLogged with
              | false => rfl
              | true => simp [notBlank rfl] at blank
            simp only [view] at opened
            split at opened
            · rename_i after put
              obtain ⟨rfl, rfl⟩ : after = next ∧ settled.connections.length = handle := by
                simpa [addConnection] using opened
              subst unlogged
              obtain ⟨changes, connectedAfter, shares⟩ := shares_of_blank connected isTo
                (fun free => (hasDatabase (.inl free)).congr rfl rfl) put
              refine ⟨?_, _, _, _, _, _, _, shares, connectedAfter, writable⟩
              obtain ⟨_, rfl⟩ := putRows?_eq_some connected put
              rw [workingDirectory_changeRows]
              exact beside.workingDirectory.trans workingDirectory
            · simp at opened
          · have knows : connection.Knows rows changes :=
              ⟨⟨none, view, fun _ _ _ none => by contradiction⟩, Nat.le_of_eq counted⟩
            simp only [view, Prod.mk.injEq, Option.some.injEq] at opened
            obtain ⟨rfl, rfl⟩ := opened
            have has : (settled.addConnection (.file connection)).1.HasDatabase location number
                (.database rows changes) isLogged := (hasDatabase (.inr rfl)).congr rfl rfl
            exact ⟨beside.workingDirectory.trans workingDirectory, _, _, _, _, _, _,
              shares_single has connected isTo knows, connected, writable⟩

theorem isLogHeld_of_connected (found : disk.connections[handle]? = some (.file connection))
    (isTo : IsTo connection location number true) : disk.isLogHeld number = true := by
  unfold isLogHeld
  refine List.any_eq_true.mpr ⟨_, List.mem_of_getElem? found, ?_⟩
  simp [isTo.isLogged, isTo.number]

theorem canChange_congr {other : FileConnection} (isTo : IsTo connection location number isLogged)
    (isToo : IsTo other location number isLogged)
    (writable : other.isWritable = connection.isWritable) :
    disk.canChange other = disk.canChange connection := by
  simp only [canChange, isInPlace, FileConnection.journal, FileConnection.logIndex,
    isTo.location, isTo.number, isTo.isLogged, isToo.location, isToo.number, isToo.isLogged,
    writable]

/-- A second `openDatabaseFile` of the same file gives a connection that shares it with the first
one. -/
theorem shares_of_openDatabaseFile_again {again : Nat} {changeable : Bool} {rows : Table String}
    {changes : Nat}
    (shares : disk.Shares [handle] location number isLogged changeable rows changes)
    (found : disk.connections[handle]? = some (.file connection))
    (writable : connection.isWritable = name.isWritable)
    (opened : disk.openDatabaseFile name location = (next, some again)) :
    again ≠ handle ∧ ∃ changeable,
      next.Shares [handle, again] location number isLogged changeable rows changes := by
  obtain ⟨connected, there, isTo, knows, _⟩ := shares.connected handle (.head _)
  cases found.symm.trans there
  have within : handle < disk.connections.length := (List.getElem?_eq_some_iff.mp there).1
  have log : false = isLogged ∨ false = false ∧ disk.isLogHeld number = true := by
    cases isLogged with
    | false => exact .inl rfl
    | true => exact .inr ⟨rfl, isLogHeld_of_connected found isTo⟩
  have file : disk.openFile? name.mode location = some (disk, number) := by
    simp only [openFile?, shares.database.placed]
  have looked := refresh_of_hasDatabase { location, number, isWritable := name.isWritable }
    shares.database rfl rfl rfl log
  generalize made : ({ ({ location, number, isWritable := name.isWritable } :
    FileConnection).seeing (.database rows changes) with isLogged } : FileConnection) = second
    at looked
  obtain ⟨views, isToo, writableToo⟩ := seeing_new made.symm
  obtain ⟨view, counted⟩ : second.view = .table none ∧ second.changes = changes := by
    subst made
    simp [FileConnection.seeing]
  have knowsToo : second.Knows rows changes :=
    ⟨⟨none, view, fun _ _ _ none => by contradiction⟩, Nat.le_of_eq counted⟩
  simp only [openDatabaseFile, file, looked, view, Prod.mk.injEq, Option.some.injEq] at opened
  obtain ⟨rfl, rfl⟩ := opened
  refine ⟨Nat.ne_of_gt within, (disk.addConnection (.file second)).1.canChange connection,
    shares.database.congr rfl rfl, fun other member => ?_⟩
  rcases List.mem_cons.mp member with rfl | last
  · exact ⟨connection, (List.getElem?_append_left within).trans found, isTo, knows, rfl⟩
  · obtain rfl := List.mem_singleton.mp last
    exact ⟨second, getElem?_addConnection disk _, isToo, knowsToo,
      canChange_congr isTo isToo (writableToo.trans writable.symm)⟩

theorem openDatabase_eq_some (opened : disk.openDatabase text = (next, some handle)) :
    ∃ name, DatabaseName.read? text = some name ∧
      (name.inMemory = true ∧ disk.addConnection (.memory .empty) = (next, handle) ∨
        name.inMemory = false ∧ databaseTarget disk.workingDirectory name.path ≠ [] ∧
          disk.openDatabaseFile name (databaseTarget disk.workingDirectory name.path) =
            (next, some handle)) := by
  unfold openDatabase at opened
  cases read : DatabaseName.read? text with
  | none => simp [read] at opened
  | some name =>
      refine ⟨name, rfl, ?_⟩
      simp only [read] at opened
      cases memory : name.inMemory with
      | true =>
          simp only [memory, if_true] at opened
          split at opened
          · left
            simpa [Prod.map, Prod.ext_iff] using opened
          · cases opened
      | false =>
          simp only [memory, Bool.false_eq_true, if_false] at opened
          split at opened
          · cases opened
          · split at opened
            · cases opened
            · rename_i location found
              obtain ⟨rfl, below⟩ := databaseLocation?_eq_some found
              exact .inr ⟨rfl, below, opened⟩

end Curfew.Disk
