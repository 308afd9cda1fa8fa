import Curfew.Proofs.Store.Place

namespace Curfew.Store

/-! Stores as cells.  Whatever a store is kept in, it answers as a cell does to which the same is
done, also when other stores on the same disk are used in between. -/

variable {α ε β δ : Type} {store first : Store α ε} {second : Store β δ} {kind : Disk → Prop}
  {disk : Disk} {cell : Cell}

/-- The text of the cell is in the place of the store, or nothing is there. -/
def Holds (store : Store α ε) (disk : Disk) (cell : Cell) : Prop :=
  match store with
  | .file store => disk.readText store.path = cell.elim (.error .notFound) .ok
  | .database store =>
      ∃ rows, disk.rows? store.connection = some rows ∧ rows.get? store.key = cell

/-- On disks of one kind every operation acts on the store as on a cell, and leads to such a disk.
-/
structure IsCell (store : Store α ε) (kind : Disk → Prop) : Prop where
  empty {disk : Disk} (held : kind disk) (holds : store.Holds disk none) :
    ∃ next, store.read disk = (next, .ok store.codec.fallback) ∧ kind next ∧
      store.Holds next (some (store.codec.encode store.codec.fallback))
  full {disk : Disk} {text : String} (held : kind disk) (holds : store.Holds disk (some text)) :
    ∃ next, store.read disk =
        (next, (store.codec.decode text).mapError (.undecodable store.location)) ∧ kind next ∧
      store.Holds next (some text)
  write {disk : Disk} (value : α) (held : kind disk) :
    ∃ next, store.write none value disk = (next, .ok ()) ∧ kind next ∧
      store.Holds next (some (store.codec.encode value))
  replace {disk : Disk} (text : String) (held : kind disk) :
    kind (store.replace text disk) ∧ store.Holds (store.replace text disk) (some text)

def Leaves (store : Store α ε) (other : Store β δ) (kind : Disk → Prop) : Prop :=
  ∀ (disk : Disk) (cell : Cell) (operation : Operation α), kind disk → other.Holds disk cell →
    other.Holds (store.perform disk operation).1 cell

theorem mapError_map {γ ζ : Type} (f : ε → ζ) (g : α → γ) (result : Except ε α) :
    (result.mapError f).map g = (result.map g).mapError f := by
  cases result <;> rfl

theorem IsCell.perform (isCell : store.IsCell kind) (held : kind disk)
    (holds : store.Holds disk cell) (operation : Operation α) :
    ∃ next, store.perform disk operation =
        (next, (cell.perform store.codec operation).2.mapError (.undecodable store.location)) ∧
      kind next ∧ store.Holds next (cell.perform store.codec operation).1 := by
  cases operation with
  | read =>
      cases cell with
      | none =>
          obtain ⟨next, read, held, stored⟩ := isCell.empty held holds
          exact ⟨next, by rw [Store.perform, read]; rfl, held, stored⟩
      | some text =>
          obtain ⟨next, read, held, stored⟩ := isCell.full held holds
          have answer := mapError_map (StoreError.undecodable store.location) some
            (store.codec.decode text)
          exact ⟨next, by rw [Store.perform, read]; exact Prod.ext rfl answer, held, stored⟩
  | write value =>
      obtain ⟨next, wrote, held, stored⟩ := isCell.write value held
      exact ⟨next, by rw [Store.perform, wrote]; rfl, held, stored⟩
  | replace text => exact ⟨_, rfl, isCell.replace text held⟩

/-- The operations were answered as by the cell, and the store holds what the cell holds after them.
-/
structure Follows (store : Store α ε) (cell : Cell) (operations : List (Operation α))
    (last : Disk) (answers : List (Except (StoreError ε) (Option α))) : Prop where
  answers : answers =
    (cell.run store.codec operations).2.map (·.mapError (.undecodable store.location))
  holds : store.Holds last (cell.run store.codec operations).1

theorem IsCell.run (isCell : store.IsCell kind) (held : kind disk) (holds : store.Holds disk cell)
    (operations : List (Operation α)) :
    store.Follows cell operations (store.run disk operations).1
      (store.run disk operations).2 := by
  induction operations generalizing disk cell with
  | nil => exact ⟨rfl, holds⟩
  | cons operation rest ih =>
      obtain ⟨next, performed, heldNext, holdsNext⟩ := isCell.perform held holds operation
      obtain ⟨answers, last⟩ := ih heldNext holdsNext
      simp only [Store.run, performed]
      exact ⟨congrArg (_ :: ·) answers, last⟩

/-- Two stores that leave each other alone, used in turns, are two cells. -/
theorem runBoth_of_isCell (isCell : first.IsCell kind) (isToo : second.IsCell kind)
    (leaves : first.Leaves second kind) (leavesToo : second.Leaves first kind) {cell other : Cell}
    (held : kind disk) (holds : first.Holds disk cell) (holdsToo : second.Holds disk other)
    (operations : List (Operation α ⊕ Operation β)) :
    first.Follows cell (operations.filterMap Sum.getLeft?)
        (runBoth first second disk operations).1
        ((runBoth first second disk operations).2.filterMap Sum.getLeft?) ∧
      second.Follows other (operations.filterMap Sum.getRight?)
        (runBoth first second disk operations).1
        ((runBoth first second disk operations).2.filterMap Sum.getRight?) := by
  induction operations generalizing disk cell other with
  | nil => exact ⟨⟨rfl, holds⟩, rfl, holdsToo⟩
  | cons operation rest ih =>
      cases operation with
      | inl operation =>
          obtain ⟨next, performed, heldNext, holdsNext⟩ := isCell.perform held holds operation
          have left := leaves disk other operation held holdsToo
          rw [performed] at left
          obtain ⟨⟨answers, last⟩, others⟩ := ih heldNext holdsNext left
          simp only [runBoth, performed, List.filterMap_cons, Sum.getLeft?_inl,
            Sum.getRight?_inl]
          exact ⟨⟨congrArg (_ :: ·) answers, last⟩, others⟩
      | inr operation =>
          obtain ⟨next, performed, heldNext, holdsNext⟩ := isToo.perform held holdsToo operation
          have right := leavesToo disk cell operation held holds
          rw [performed] at right
          obtain ⟨others, answers, last⟩ := ih heldNext right holdsNext
          simp only [runBoth, performed, List.filterMap_cons, Sum.getLeft?_inr,
            Sum.getRight?_inr]
          exact ⟨others, congrArg (_ :: ·) answers, last⟩

/-- A file is a cell wherever its directory is there or can be made and no directory is in its way.
-/
theorem isCell_file {file : FileStore α ε} {directory name : String} {location : Location}
    {base : Disk} (isIn : file.IsIn directory name) (reaches : base.Reaches directory location)
    (ready : file.Ready location name base)
    (made : ∀ disk, kind disk →
      ∃ made, Disk.runSteps none disk (disk.directorySteps file.above) = (made, .ok ()) ∧
        Disk.SameDirectories base made)
    (settled : ∀ disk, Disk.SameDirectories base disk → kind disk) :
    (Store.file file).IsCell kind := by
  have write {disk : Disk} (value : α) (held : kind disk) :
      ∃ next, file.write none value disk = (next, .ok ()) ∧ kind next ∧
        (Store.file file).Holds next (some (file.codec.encode value)) := by
    obtain ⟨between, steps, same⟩ := made disk held
    obtain ⟨next, wrote, put⟩ := FileStore.put_of_write isIn (reaches.of_sameDirectories same)
      ((FileStore.ready_congr same).mpr ready) value
    exact ⟨next, (FileStore.write_of_made steps value).trans wrote,
      settled next (same.trans put.directories), put.stored⟩
  refine ⟨fun {disk} held holds => ?_, fun {disk text} held holds => ?_,
    fun {disk} value held => write value held, fun {disk} text held => ?_⟩
  · obtain ⟨next, wrote, heldNext, stored⟩ := write file.codec.fallback held
    have missing : disk.readText file.path = .error .notFound := holds
    refine ⟨next, ?_, heldNext, stored⟩
    simp [Store.read, FileStore.read, missing, wrote, Except.map]
    rfl
  · have found : disk.readText file.path = .ok text := holds
    refine ⟨disk, ?_, held, holds⟩
    simp [Store.read, FileStore.read, found]
    rfl
  · obtain ⟨between, steps, same⟩ := made disk held
    have put := FileStore.put_of_replace isIn (reaches.of_sameDirectories same)
      ((FileStore.ready_congr same).mpr ready) text
    change kind (file.replace text disk) ∧ (Store.file file).Holds (file.replace text disk) _
    rw [FileStore.replace_of_made steps]
    exact ⟨settled _ (same.trans put.directories), put.stored⟩

theorem isCell_file_of_reaches {file : FileStore α ε} {directory name : String}
    {location : Location} {base : Disk} (isIn : file.IsIn directory name)
    (reaches : base.Reaches directory location) (ready : file.Ready location name base) :
    (Store.file file).IsCell (Disk.SameDirectories base) :=
  isCell_file isIn reaches ready (fun disk same =>
    ⟨disk, FileStore.directories_of_ready isIn reaches ready same, same⟩) fun _ same => same

theorem leaves_file {file : FileStore α ε} {sibling : FileStore β δ}
    {directory name otherName : String} {location : Location} {base : Disk}
    (isIn : file.IsIn directory name) (isToo : sibling.IsIn directory otherName)
    (reaches : base.Reaches directory location) (ready : file.Ready location name base)
    (readyToo : sibling.Ready location otherName base) (notTarget : otherName ≠ name)
    (notDraft : otherName ≠ name ++ ".tmp") :
    (Store.file file).Leaves (Store.file sibling) (Disk.SameDirectories base) := by
  intro disk cell operation same holds
  have reachesHere := reaches.of_sameDirectories same
  have readyHere := (FileStore.ready_congr same).mpr ready
  have spared {text : String} {next : Disk} (put : file.Put location name text disk next) :
      (Store.file sibling).Holds next cell := by
    refine Eq.trans ?_ holds
    exact put.readText_sibling isToo reachesHere ((FileStore.ready_congr same).mpr readyToo)
      notTarget notDraft
  have written (value : α) : (Store.file sibling).Holds (file.write none value disk).1 cell := by
    obtain ⟨next, wrote, put⟩ := FileStore.put_of_write isIn reachesHere readyHere value
    rw [wrote]
    exact spared put
  cases operation with
  | read =>
      change (Store.file sibling).Holds (file.read disk).1 cell
      rcases file.fst_read disk with looked | wrote
      · rw [looked]
        exact holds
      · rw [wrote]
        exact written _
  | write value =>
      simp only [Store.perform, write_file]
      exact written value
  | replace text =>
      have put := FileStore.put_of_replace isIn reachesHere readyHere text
      exact spared put

variable {database : DatabaseStore α ε} {sibling : DatabaseStore β δ} {handles : List Nat}

theorem put_database (keeps : Disk.Keeps handles true disk)
    (member : database.connection ∈ handles) (value : α) :
    ∃ next, database.write none value disk = (next, .ok ()) ∧ Disk.Keeps handles true next ∧
      (Store.database database).Holds next (some (database.codec.encode value)) := by
  obtain ⟨next, rows, wrote, keepsNext, _, shown, _⟩ :=
    DatabaseStore.write_none_of_keeps keeps member value
  exact ⟨next, wrote, keepsNext, _, shown, Table.get?_insert_self ..⟩

theorem holds_of_write_sibling (keeps : Disk.Keeps handles true disk)
    (member : database.connection ∈ handles) (alsoMember : sibling.connection ∈ handles)
    (connections : sibling.connection ≠ database.connection) (keys : sibling.key ≠ database.key)
    (holds : (Store.database sibling).Holds disk cell) (value : α) :
    (Store.database sibling).Holds (database.write none value disk).1 cell := by
  obtain ⟨next, rows, wrote, _, _, _, others⟩ :=
    DatabaseStore.write_none_of_keeps keeps member value
  obtain ⟨siblingRows, siblingShown, found⟩ := holds
  rw [wrote]
  rcases others _ alsoMember connections with same | ⟨before, after⟩
  · exact ⟨siblingRows, same.trans siblingShown, found⟩
  · cases before.symm.trans siblingShown
    exact ⟨_, after, (Table.get?_insert_other _ keys _).trans found⟩

theorem isCell_database (member : database.connection ∈ handles) :
    (Store.database database).IsCell (Disk.Keeps handles true) := by
  refine ⟨fun {disk} keeps holds => ?_, fun {disk text} keeps holds => ?_,
    fun {disk} value keeps => put_database keeps member value, fun {disk} text keeps => ?_⟩
  · obtain ⟨rows, shown, missing⟩ := holds
    obtain ⟨_, looked, _⟩ := keeps.rowsOf member
    obtain ⟨next, wrote, keepsNext, stored⟩ := put_database looked member database.codec.fallback
    have read : (disk.rowsOf database.connection).2 = some rows := shown
    refine ⟨next, ?_, keepsNext, stored⟩
    simp [Store.read, DatabaseStore.read, read, missing, wrote, Except.map]
    rfl
  · obtain ⟨rows, shown, found⟩ := holds
    obtain ⟨_, looked, same⟩ := keeps.rowsOf member
    have read : (disk.rowsOf database.connection).2 = some rows := shown
    refine ⟨(disk.rowsOf database.connection).1, ?_, looked, rows, (same _ member).trans shown,
      found⟩
    simp [Store.read, DatabaseStore.read, read, found]
    rfl
  · have rowMember : database.row.connection ∈ handles := member
    obtain ⟨next, wrote, keepsNext, stored⟩ := put_database keeps rowMember text
    have replaced : database.replace text disk = next := congrArg Prod.fst wrote
    change Disk.Keeps handles true (database.replace text disk) ∧
      (Store.database database).Holds (database.replace text disk) _
    rw [replaced]
    exact ⟨keepsNext, stored⟩

theorem leaves_database (member : database.connection ∈ handles)
    (alsoMember : sibling.connection ∈ handles)
    (connections : sibling.connection ≠ database.connection) (keys : sibling.key ≠ database.key) :
    (Store.database database).Leaves (Store.database sibling) (Disk.Keeps handles true) := by
  intro disk cell operation keeps holds
  obtain ⟨_, looked, same⟩ := keeps.rowsOf member
  have holdsLooked : (Store.database sibling).Holds (disk.rowsOf database.connection).1 cell := by
    obtain ⟨rows, shown, found⟩ := holds
    exact ⟨rows, (same _ alsoMember).trans shown, found⟩
  cases operation with
  | read =>
      change (Store.database sibling).Holds (database.read disk).1 cell
      rcases database.fst_read disk with read | wrote
      · rw [read]
        exact holdsLooked
      · rw [wrote]
        exact holds_of_write_sibling looked member alsoMember connections keys holdsLooked _
  | write value =>
      simp only [Store.perform, write_database]
      exact holds_of_write_sibling keeps member alsoMember connections keys holds value
  | replace text =>
      have rowMember : database.row.connection ∈ handles := member
      exact holds_of_write_sibling keeps rowMember alsoMember connections keys holds text

/-- A file whose path ends in a name, or a database that was just opened. -/
inductive Placed : Store α ε → Disk → Prop where
  | file {file : FileStore α ε} {disk : Disk} {directory name : String}
      (path : file.path = Path.join directory name) (usable : Path.IsName name) :
      Placed (.file file) disk
  | database {database : DatabaseStore α ε} {before disk : Disk} {path : String}
      (numbered : before.Numbered)
      (opened : DatabaseStore.open? path database.key database.codec before =
        (disk, some database)) : Placed (.database database) disk

/-- Two files in one directory neither of which is the draft of the other, or two keys of one
database. -/
inductive Apart : Store α ε → Store β δ → Disk → Prop where
  | files {file : FileStore α ε} {sibling : FileStore β δ} {disk : Disk}
      {directory name otherName : String} {location : Location}
      (path : file.path = Path.join directory name) (usable : Path.IsName name)
      (otherPath : sibling.path = Path.join directory otherName)
      (otherUsable : Path.IsName otherName) (reaches : disk.Reaches directory location)
      (names : otherName ≠ name) (notDraft : otherName ≠ name ++ ".tmp")
      (notDraftToo : name ≠ otherName ++ ".tmp") : Apart (.file file) (.file sibling) disk
  | databases {database : DatabaseStore α ε} {sibling : DatabaseStore β δ}
      {before between disk : Disk} {path : String} (numbered : before.Numbered)
      (opened : DatabaseStore.open? path database.key database.codec before =
        (between, some database))
      (reopened : DatabaseStore.open? path sibling.key sibling.codec between =
        (disk, some sibling)) (keys : sibling.key ≠ database.key) :
      Apart (.database database) (.database sibling) disk

def Writable (store : Store α ε) (disk : Disk) : Prop :=
  store.takes none store.codec.fallback disk = true

instance (store : Store α ε) (disk : Disk) : Decidable (store.Writable disk) :=
  inferInstanceAs (Decidable (_ = _))

theorem openDatabase_of_open? {path key : String} {codec : Codec α ε} {before : Disk}
    {database : DatabaseStore α ε}
    (opened : DatabaseStore.open? path key codec before = (disk, some database)) :
    before.openDatabase path = (disk, some database.connection) := by
  unfold DatabaseStore.open? at opened
  cases tried : before.openDatabase path with
  | mk next handle? =>
      cases handle? with
      | none => simp [tried] at opened
      | some handle =>
          simp only [tried, Prod.map, id, Option.map_some, Prod.mk.injEq, Option.some.injEq]
            at opened
          obtain ⟨rfl, rfl⟩ := opened
          rfl

theorem Writable.keeps {changeable : Bool} (writable : (Store.database database).Writable disk)
    (keeps : Disk.Keeps handles changeable disk) (member : database.connection ∈ handles) :
    Disk.Keeps handles true disk := by
  have taken := (reliable_database member).takes none database.codec.fallback keeps
  have writable : (Store.database database).takes none database.codec.fallback disk = true :=
    writable
  rw [writable] at taken
  obtain rfl : changeable = true := by simpa using taken.symm
  exact keeps

theorem Writable.made {file : FileStore α ε} {directory name : String}
    (writable : (Store.file file).Writable disk) (path : file.path = Path.join directory name)
    (usable : Path.IsName name) :
    file.IsIn directory name ∧ ∃ made location,
      Disk.runSteps none disk (disk.directorySteps file.above) = (made, .ok ()) ∧
        made.Reaches directory location ∧ file.Ready location name made := by
  obtain ⟨after, wrote⟩ := takes_iff.mp writable
  rw [write_file] at wrote
  have isIn := FileStore.isIn_of_write path usable wrote
  obtain ⟨made, _, steps, _⟩ := FileStore.steps_of_write wrote
  obtain ⟨location, reaches⟩ := Disk.reaches_of_directorySteps steps
  have reaches := isIn.reaches_of_above reaches
  rw [FileStore.write_of_made steps] at wrote
  have ready := ((FileStore.write_eq_ok_iff isIn reaches).mp ⟨after, wrote⟩).2
  exact ⟨isIn, made, location, steps, reaches, ready⟩

theorem Writable.ready {file : FileStore α ε} {directory name : String} {location : Location}
    (writable : (Store.file file).Writable disk) (path : file.path = Path.join directory name)
    (usable : Path.IsName name) (reaches : disk.Reaches directory location) :
    file.IsIn directory name ∧ file.Ready location name disk := by
  obtain ⟨after, wrote⟩ := takes_iff.mp writable
  have isIn := FileStore.isIn_of_write path usable wrote
  exact ⟨isIn, ((FileStore.write_eq_ok_iff isIn reaches).mp ⟨after, wrote⟩).2⟩

theorem exists_isCell (placed : store.Placed disk) (writable : store.Writable disk) :
    ∃ kind, store.IsCell kind ∧ kind disk := by
  cases placed with
  | file path usable =>
      obtain ⟨isIn, base, location, steps, reaches, ready⟩ := writable.made path usable
      -- Making the directory comes first, and once it is there nothing more is made.
      have isCell := isCell_file isIn reaches ready (fun _ held => held)
        fun disk same => ⟨disk, FileStore.directories_of_ready isIn reaches ready same, same⟩
      exact ⟨_, isCell, base, steps, .refl base⟩
  | database numbered opened =>
      obtain ⟨_, keeps⟩ := Disk.keeps_of_openDatabase numbered (openDatabase_of_open? opened)
      exact ⟨_, isCell_database (.head _), writable.keeps keeps (.head _)⟩

theorem exists_isCell_both (apart : first.Apart second disk) (writable : first.Writable disk)
    (writableToo : second.Writable disk) :
    ∃ kind, first.IsCell kind ∧ second.IsCell kind ∧ first.Leaves second kind ∧
      second.Leaves first kind ∧ kind disk := by
  cases apart with
  | files path usable otherPath otherUsable reaches names notDraft notDraftToo =>
      obtain ⟨isIn, ready⟩ := writable.ready path usable reaches
      obtain ⟨isToo, readyToo⟩ := writableToo.ready otherPath otherUsable reaches
      exact ⟨_, isCell_file_of_reaches isIn reaches ready,
        isCell_file_of_reaches isToo reaches readyToo,
        leaves_file isIn isToo reaches ready readyToo names notDraft,
        leaves_file isToo isIn reaches readyToo ready names.symm notDraftToo, .refl disk⟩
  | databases numbered opened reopened keys =>
      obtain ⟨different, _, keeps⟩ := Disk.keeps_of_openDatabase_again numbered
        (openDatabase_of_open? opened) (openDatabase_of_open? reopened)
      exact ⟨_, isCell_database (.head _), isCell_database (.tail _ (.head _)),
        leaves_database (.head _) (.tail _ (.head _)) different keys,
        leaves_database (.tail _ (.head _)) (.head _) different.symm keys.symm,
        writable.keeps keeps (.head _)⟩

/-- A store in a file and one in a database answer every run of `read`, `write` and `replace` as the
same cell does, for any codec, and hold its text afterwards.  Two stores apart from each other, used
in any order, are two such cells. -/
theorem stores_as_cells :
    (∀ (store : Store α ε) (disk : Disk) (cell : Cell), store.Placed disk → store.Writable disk →
      store.Holds disk cell → ∀ operations,
        store.Follows cell operations (store.run disk operations).1
          (store.run disk operations).2) ∧
    ∀ (first : Store α ε) (second : Store β δ) (disk : Disk) (cell other : Cell),
      first.Apart second disk → first.Writable disk → second.Writable disk →
      first.Holds disk cell → second.Holds disk other → ∀ operations,
        first.Follows cell (operations.filterMap Sum.getLeft?)
            (runBoth first second disk operations).1
            ((runBoth first second disk operations).2.filterMap Sum.getLeft?) ∧
          second.Follows other (operations.filterMap Sum.getRight?)
            (runBoth first second disk operations).1
            ((runBoth first second disk operations).2.filterMap Sum.getRight?) := by
  constructor
  · intro store disk cell placed writable holds operations
    obtain ⟨kind, isCell, held⟩ := exists_isCell placed writable
    exact isCell.run held holds operations
  · intro first second disk cell other apart writable writableToo holds holdsToo operations
    obtain ⟨kind, isCell, isToo, leaves, leavesToo, held⟩ :=
      exists_isCell_both apart writable writableToo
    exact runBoth_of_isCell isCell isToo leaves leavesToo held holds holdsToo operations

def homeDisk : Disk where
  entries := .ofList [("/home", .directory)]

def mood (path : String) : Store String Codec.LabelError := .file ⟨path, .label "calm"⟩

def visits : Store Nat Codec.CounterError := .file ⟨"/home/visits", .counter 0⟩

def moods : List (Operation String) := [.read, .replace "", .read, .write "glad", .read]

def turns : List (Operation String ⊕ Operation Nat) :=
  [.inr .read, .inl (.replace ""), .inr (.write 1), .inl .read, .inr .read]

theorem numbered_homeDisk : homeDisk.Numbered := by
  have noFile {key : String} {number : Nat} {content : Content} :
      homeDisk.entries.get? key ≠ some (.file number content) := by
    intro found
    have member := Table.get?_eq_some_iff.mp found
    simp [show homeDisk.entries.entries = [("/home", .directory)] from rfl] at member
  exact ⟨fun found => absurd found noFile, fun found => absurd found noFile⟩

/-- A label in a file whose directory is missing, the same label in a database, and a counter beside
a label that cannot be decoded. -/
theorem moods_as_cells :
    ((mood "/home/notes/mood").run homeDisk moods).2 =
      [.ok (some "calm"), .ok none, .error (.undecodable "/home/notes/mood" .empty), .ok none,
        .ok (some "glad")] ∧
    (∃ opened database, DatabaseStore.open? "/home/moods.db" "mood" (.label "calm") homeDisk =
        (opened, some database) ∧ ((Store.database database).run opened moods).2 =
      [.ok (some "calm"), .ok none,
        .error (.undecodable "sqlite table stored_values, key 'mood'" .empty), .ok none,
        .ok (some "glad")]) ∧
    (runBoth (mood "/home/mood") visits homeDisk turns).2.filterMap Sum.getLeft? =
      [.ok none, .error (.undecodable "/home/mood" .empty)] ∧
    (runBoth (mood "/home/mood") visits homeDisk turns).2.filterMap Sum.getRight? =
      [.ok (some 0), .ok none, .ok (some 1)] := by
  obtain ⟨alone, together⟩ := stores_as_cells (α := String) (ε := Codec.LabelError) (β := Nat)
    (δ := Codec.CounterError)
  refine ⟨?_, ?_, ?_⟩
  · have path : "/home/notes/mood" = Path.join "/home/notes" "mood" := by decide +kernel
    have missing : (mood "/home/notes/mood").Holds homeDisk none := by with_unfolding_all rfl
    exact (alone _ _ none (.file path (by decide)) (by decide +kernel) missing moods).answers
  · have opened : DatabaseStore.open? "/home/moods.db" "mood" (.label "calm") homeDisk =
        ((homeDisk.openDatabase "/home/moods.db").1, some ⟨0, "mood", .label "calm"⟩) := by
      with_unfolding_all rfl
    refine ⟨_, _, opened, ?_⟩
    have missing : (Store.database ⟨0, "mood", .label "calm"⟩).Holds
        (homeDisk.openDatabase "/home/moods.db").1 none := ⟨.empty, by decide +kernel, rfl⟩
    exact (alone _ _ none (.database numbered_homeDisk opened) (by decide +kernel) missing
      moods).answers
  · have path : "/home/mood" = Path.join "/home" "mood" := by decide +kernel
    have otherPath : "/home/visits" = Path.join "/home" "visits" := by decide +kernel
    have reaches : homeDisk.Reaches "/home" ["home"] := ⟨by with_unfolding_all rfl, .inr rfl⟩
    have apart : (mood "/home/mood").Apart visits homeDisk :=
      .files path (by decide) otherPath (by decide) reaches (by decide) (by decide) (by decide)
    have noMood : (mood "/home/mood").Holds homeDisk none := by with_unfolding_all rfl
    have noVisits : visits.Holds homeDisk none := by with_unfolding_all rfl
    obtain ⟨moodFollows, visitsFollow⟩ := together _ _ _ none none apart (by decide +kernel)
      (by decide +kernel) noMood noVisits turns
    exact ⟨moodFollows.answers, visitsFollow.answers.trans (by with_unfolding_all rfl)⟩

end Curfew.Store
