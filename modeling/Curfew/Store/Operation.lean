import Curfew.Disk.Step
import Curfew.Store.Basic
import Curfew.Store.Codec

namespace Curfew

/-! What is done with a store, as data, and the answers.  A text may also be put into the place
of a value from outside, whether it can be decoded or not. -/

inductive Store.Operation (α : Type) where
  | read
  | write (value : α)
  | replace (text : String)

/-- Puts a text into the file itself. -/
def FileStore.replace {α ε : Type} (store : FileStore α ε) (text : String) (disk : Disk) : Disk :=
  disk.withFile store.path (.text text)

/-- The row of a store, as it is. -/
def DatabaseStore.row {α ε : Type} (store : DatabaseStore α ε) : DatabaseStore String Empty :=
  ⟨store.connection, store.key, .plain ""⟩

/-- Puts a text into the row itself. -/
def DatabaseStore.replace {α ε : Type} (store : DatabaseStore α ε) (text : String)
    (disk : Disk) : Disk :=
  (store.row.write none text disk).1

namespace Store

variable {α ε β δ : Type}

/-- The location that is told when what is stored cannot be decoded. -/
def location : Store α ε → String
  | .file store => store.path
  | .database store => store.location

def replace (store : Store α ε) (text : String) (disk : Disk) : Disk :=
  match store with
  | .file store => store.replace text disk
  | .database store => store.replace text disk

/-- Only reading answers with a value. -/
def perform (store : Store α ε) (disk : Disk) :
    Operation α → Disk × Except (StoreError ε) (Option α)
  | .read => ((store.read disk).1, (store.read disk).2.map some)
  | .write value =>
      ((store.write none value disk).1, (store.write none value disk).2.map fun _ => none)
  | .replace text => (store.replace text disk, .ok none)

def run (store : Store α ε) :
    Disk → List (Operation α) → Disk × List (Except (StoreError ε) (Option α))
  | disk, [] => (disk, [])
  | disk, operation :: rest =>
      let (disk, answer) := store.perform disk operation
      let (disk, answers) := store.run disk rest
      (disk, answer :: answers)

/-- Two stores on one disk, used in turns. -/
def runBoth (first : Store α ε) (second : Store β δ) :
    Disk → List (Operation α ⊕ Operation β) →
      Disk × List (Except (StoreError ε) (Option α) ⊕ Except (StoreError δ) (Option β))
  | disk, [] => (disk, [])
  | disk, .inl operation :: rest =>
      let (disk, answer) := first.perform disk operation
      let (disk, answers) := runBoth first second disk rest
      (disk, .inl answer :: answers)
  | disk, .inr operation :: rest =>
      let (disk, answer) := second.perform disk operation
      let (disk, answers) := runBoth first second disk rest
      (disk, .inr answer :: answers)

end Store

namespace Cell

variable {α ε : Type}

def perform (codec : Codec α ε) (cell : Cell) : Store.Operation α → Cell × Except ε (Option α)
  | .read => ((read codec cell).1, (read codec cell).2.map some)
  | .write value => (write codec value cell, .ok none)
  | .replace text => (some text, .ok none)

def run (codec : Codec α ε) :
    Cell → List (Store.Operation α) → Cell × List (Except ε (Option α))
  | cell, [] => (cell, [])
  | cell, operation :: rest =>
      let (cell, answer) := cell.perform codec operation
      let (cell, answers) := Cell.run codec cell rest
      (cell, answer :: answers)

end Cell

end Curfew
