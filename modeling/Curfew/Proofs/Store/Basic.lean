import Curfew.Proofs.Store.Database
import Curfew.Proofs.Store.File
import Curfew.Store.Basic

namespace Curfew.Store

/-! What can be relied on of a store, whatever it is kept in. -/

variable {α ε β δ : Type} {store : Store α ε} {other : Store β δ} {disk base : Disk}
  {value : α} {fault : Option Disk.Fault}

def codec : Store α ε → Codec α ε
  | .file store => store.codec
  | .database store => store.codec

/-- The stored text, if there is one that can be read. -/
def cell (store : Store α ε) (disk : Disk) : Cell :=
  match store with
  | .file store => store.cell disk
  | .database store => store.cell disk

/-- The write succeeds. -/
def takes (fault : Option Disk.Fault) (store : Store α ε) (value : α) (disk : Disk) : Bool :=
  (store.write fault value disk).2.isOk

@[simp] theorem read_file (file : FileStore α ε) (disk : Disk) :
    (Store.file file).read disk = file.read disk := rfl

@[simp] theorem write_file (file : FileStore α ε) (fault : Option Disk.Fault) (value : α)
    (disk : Disk) : (Store.file file).write fault value disk = file.write fault value disk := rfl

@[simp] theorem write_database (database : DatabaseStore α ε) (fault : Option Disk.Fault)
    (value : α) (disk : Disk) :
    (Store.database database).write fault value disk = database.write fault value disk := rfl

/-- On disks of one kind the fault of a write decides whether it succeeds.  If it does the text is
stored, and if not the cell is as it was. -/
structure Reliable (store : Store α ε) (kind : Disk → Prop) (admits : Option Disk.Fault → Bool) :
    Prop where
  takes (fault : Option Disk.Fault) (value : α) {disk : Disk} (held : kind disk) :
    store.takes fault value disk = admits fault
  cell (fault : Option Disk.Fault) (value : α) {disk : Disk} (held : kind disk) :
    store.cell (store.write fault value disk).1 =
      if admits fault then some (store.codec.encode value) else store.cell disk
  write (fault : Option Disk.Fault) (value : α) {disk : Disk} (held : kind disk) :
    kind (store.write fault value disk).1
  read {disk : Disk} (held : kind disk) : kind (store.read disk).1

/-- Writing to one store never changes the cell of the other. -/
def Spares (store : Store α ε) (other : Store β δ) (kind : Disk → Prop) : Prop :=
  ∀ (fault : Option Disk.Fault) (value : α) (disk : Disk), kind disk →
    other.cell (store.write fault value disk).1 = other.cell disk

theorem read_of_cell {text : String} (full : store.cell disk = some text)
    (decoded : store.codec.decode text = .ok value) : (store.read disk).2 = .ok value := by
  cases store with
  | file store => exact congrArg Prod.snd (FileStore.read_eq_ok_of_cell full decoded)
  | database store => exact DatabaseStore.read_eq_ok_of_cell full decoded

theorem takes_iff :
    store.takes fault value disk = true ↔
      ∃ after, store.write fault value disk = (after, .ok ()) := by
  unfold takes
  generalize store.write fault value disk = outcome
  obtain ⟨after, result⟩ := outcome
  cases result <;> simp [Except.isOk, Except.toBool]

theorem write_file_cases {file : FileStore α ε} {directory name : String} {location : Location}
    (isIn : file.IsIn directory name) (reaches : disk.Reaches directory location)
    (fault : Option Disk.Fault) (value : α) :
    ((Store.file file).takes fault value disk = true ∧ Path.Followable file.path ∧
        FileStore.Written location name (file.codec.encode value) disk
          (file.write fault value disk).1) ∨
      ((Store.file file).takes fault value disk = false ∧
        FileStore.Kept location name disk (file.write fault value disk).1) := by
  cases taken : (Store.file file).takes fault value disk with
  | true =>
      obtain ⟨after, wrote⟩ := takes_iff.mp taken
      rw [write_file] at wrote
      obtain ⟨_, ready⟩ := (FileStore.write_eq_ok_iff isIn reaches).mp ⟨after, wrote⟩
      have written := FileStore.written_of_write isIn reaches wrote
      rw [wrote]
      exact .inl ⟨rfl, ready.path, written⟩
  | false =>
      refine .inr ⟨rfl, FileStore.kept_of_write isIn reaches (Prod.eta _).symm fun succeeded => ?_⟩
      simp [takes, succeeded, Except.isOk, Except.toBool] at taken

theorem takes_file {file : FileStore α ε} {directory name : String} {location : Location}
    (isIn : file.IsIn directory name) (reaches : base.Reaches directory location)
    (same : Disk.SameDirectories base disk) (fault : Option Disk.Fault) (value other : α) :
    (Store.file file).takes fault value disk = (Store.file file).takes fault other base := by
  have reachesHere := reaches.of_sameDirectories same
  have length : (file.writeSteps value disk).length = (file.writeSteps other base).length := by
    rw [FileStore.length_writeSteps isIn reachesHere, FileStore.length_writeSteps isIn reaches]
  rw [Bool.eq_iff_iff, takes_iff, takes_iff]
  simp only [write_file]
  rw [FileStore.write_eq_ok_iff isIn reachesHere, FileStore.write_eq_ok_iff isIn reaches, length,
    FileStore.ready_congr same]

/-- A file is reliable as long as no directories come or go. -/
theorem reliable_file {file : FileStore α ε} {directory name : String} {location : Location}
    (isIn : file.IsIn directory name) (reaches : base.Reaches directory location) :
    (Store.file file).Reliable (Disk.SameDirectories base)
      fun fault => (Store.file file).takes fault file.codec.fallback base := by
  have directories (fault : Option Disk.Fault) (value : α) {disk : Disk}
      (same : Disk.SameDirectories base disk) :
      Disk.SameDirectories base (file.write fault value disk).1 := by
    rcases write_file_cases isIn (reaches.of_sameDirectories same) fault value with
      ⟨_, _, written⟩ | ⟨_, kept⟩
    · exact same.trans written.directories
    · exact same.trans kept.directories
  constructor
  · intro fault value disk same
    exact takes_file isIn reaches same fault value _
  · intro fault value disk same
    have reachesHere := reaches.of_sameDirectories same
    rw [← takes_file isIn reaches same fault value]
    rw [write_file]
    rcases write_file_cases isIn reachesHere fault value with
      ⟨taken, followable, written⟩ | ⟨refused, kept⟩
    · obtain ⟨number, target⟩ := written.target
      rw [if_pos taken]
      exact FileStore.cell_eq_some isIn (reachesHere.of_sameDirectories written.directories)
        followable target
    · rw [if_neg (by simp [refused])]
      exact FileStore.cell_congr isIn reachesHere kept.directories
        (kept.others _ (FileStore.draft_ne_target location name).symm)
  · intro fault value disk same
    rw [write_file]
    exact directories fault value same
  · intro disk same
    change Disk.SameDirectories base (file.read disk).1
    rcases file.fst_read disk with looked | wrote
    · rw [looked]
      exact same
    · rw [wrote]
      exact directories _ _ same

theorem spares_file {file : FileStore α ε} {sibling : FileStore β δ}
    {directory name otherName : String} {location : Location}
    (isIn : file.IsIn directory name) (isToo : sibling.IsIn directory otherName)
    (reaches : base.Reaches directory location) (notTarget : otherName ≠ name)
    (notDraft : otherName ≠ name ++ ".tmp") :
    (Store.file file).Spares (Store.file sibling) (Disk.SameDirectories base) := by
  intro fault value disk same
  have reachesHere := reaches.of_sameDirectories same
  have apart {third : String} (different : otherName ≠ third) :
      Location.text (location ++ [otherName]) ≠ Location.text (location ++ [third]) :=
    fun alike => different (Location.text_concat_inj alike)
  rw [write_file]
  rcases write_file_cases isIn reachesHere fault value with ⟨_, _, written⟩ | ⟨_, kept⟩
  · exact FileStore.cell_congr isToo reachesHere written.directories
      (written.others _ (apart notDraft) (apart notTarget))
  · exact FileStore.cell_congr isToo reachesHere kept.directories
      (kept.others _ (apart notDraft))

theorem write_database_cases {database : DatabaseStore α ε} {handles : List Nat}
    {changeable : Bool} (keeps : Disk.Keeps handles changeable disk)
    (member : database.connection ∈ handles) (fault : Option Disk.Fault) (value : α) :
    ((fault.isNone && changeable) = true ∧ (Store.database database).takes fault value disk = true ∧
        database.cell (database.write fault value disk).1 =
          some (database.codec.encode value)) ∨
      ((fault.isNone && changeable) = false ∧
        (Store.database database).takes fault value disk = false ∧
        database.cell (database.write fault value disk).1 = database.cell disk) := by
  rw [takes, write_database]
  by_cases refused : fault ≠ none ∨ changeable = false
  · obtain ⟨next, wrote, _, same⟩ := DatabaseStore.write_of_refused keeps member refused value
    rw [wrote, DatabaseStore.cell, DatabaseStore.cell, same _ member]
    refine .inr ⟨?_, rfl, rfl⟩
    rcases refused with faulty | rfl
    · simp [faulty]
    · exact Bool.and_false _
  · obtain ⟨rfl, rfl⟩ : fault = none ∧ changeable = true := by simpa using refused
    obtain ⟨next, rows, wrote, _, _, shown, _⟩ :=
      DatabaseStore.write_none_of_keeps keeps member value
    rw [wrote, DatabaseStore.cell_of_rows shown, Table.get?_insert_self]
    exact .inl ⟨rfl, rfl, rfl⟩

theorem reliable_database {database : DatabaseStore α ε} {handles : List Nat} {changeable : Bool}
    (member : database.connection ∈ handles) :
    (Store.database database).Reliable (Disk.Keeps handles changeable)
      fun fault => fault.isNone && changeable := by
  constructor
  · intro fault value disk keeps
    rcases write_database_cases keeps member fault value with
      ⟨admitted, taken, _⟩ | ⟨refused, lost, _⟩
    · exact taken.trans admitted.symm
    · exact lost.trans refused.symm
  · intro fault value disk keeps
    rw [write_database]
    rcases write_database_cases keeps member fault value with
      ⟨admitted, _, stored⟩ | ⟨refused, _, kept⟩
    · rw [if_pos admitted]
      exact stored
    · rw [if_neg (by simp [refused])]
      exact kept
  · intro fault value disk keeps
    exact DatabaseStore.keeps_write keeps member fault value
  · intro disk keeps
    exact DatabaseStore.keeps_read keeps member

theorem spares_database {database : DatabaseStore α ε} {sibling : DatabaseStore β δ}
    {handles : List Nat} {changeable : Bool} (member : database.connection ∈ handles)
    (alsoMember : sibling.connection ∈ handles)
    (connections : sibling.connection ≠ database.connection)
    (keys : database.key ≠ sibling.key) :
    (Store.database database).Spares (Store.database sibling) (Disk.Keeps handles changeable) := by
  intro fault value disk keeps
  exact DatabaseStore.cell_of_write_other keeps member alsoMember connections keys fault value

end Curfew.Store
