import Curfew.Table
import Curfew.Toml.Scalar

namespace Curfew.Toml

/-! TOML values.  Only the values that a configuration can hold are kept; of numbers with
a fraction and of dates it is enough to know that they are there. -/

inductive Value where
  | string (value : String)
  | integer (value : Int)
  | float
  | boolean (value : Bool)
  | dateTime
  | array (items : List Value)
  | table (members : List (String × Value))
deriving Repr

instance : Inhabited Value := ⟨.boolean false⟩

/-- How a table under construction came to be there.  A table can be defined once, but may first be
mentioned in the header of a table below it, and dotted keys may add to a table that dotted keys
made. -/
inductive Origin where
  | header
  | mentioned
  | dotted
deriving DecidableEq, Repr

inductive Node where
  | value (value : Value)
  | table (origin : Origin) (entries : List (String × Node))
  | tables (earlier : List (List (String × Node))) (last : List (String × Node))

abbrev Nodes := List (String × Node)

mutual

def Node.close : Node → Value
  | .value value => value
  | .table _ entries => .table (closeAll entries)
  | .tables earlier last => .array (closeEach earlier ++ [.table (closeAll last)])

def closeAll : List (String × Node) → List (String × Value)
  | [] => []
  | (key, node) :: rest => (key, node.close) :: closeAll rest

def closeEach : List (List (String × Node)) → List Value
  | [] => []
  | entries :: rest => .table (closeAll entries) :: closeEach rest

end

/-- Adds a value under a key, below the tables of a dotted key, which may be new.  A table
from a header is not reopened, and what is added to must be a table that dotted keys made. -/
def putDotted? (key : String) (value : Value) : List String → Nodes → Option Nodes
  | [], entries =>
      match Entries.lookup key entries with
      | some _ => none
      | none => some (Entries.put key (.value value) entries)
  | step :: path, entries =>
      match Entries.lookup step entries with
      | none => do
          let below ← putDotted? key value path []
          some (Entries.put step (.table .dotted below) entries)
      | some (.table .header _) => none
      | some (.table origin below) => do
          if path.isEmpty && origin != .dotted then none
          let below ← putDotted? key value path below
          some (Entries.put step (.table origin below) entries)
      | some (.tables earlier last) => do
          if path.isEmpty then none
          let last ← putDotted? key value path last
          some (Entries.put step (.tables earlier last) entries)
      | some (.value _) => none

/-- Changes the entries of the table at a path, through the last table of a list of tables.
Tables that are not there are made. -/
def changeAt? (change : Nodes → Option Nodes) : List String → Nodes → Option Nodes
  | [], entries => change entries
  | step :: path, entries =>
      match Entries.lookup step entries with
      | none => do
          let below ← changeAt? change path []
          some (Entries.put step (.table .mentioned below) entries)
      | some (.table origin below) => do
          let below ← changeAt? change path below
          some (Entries.put step (.table origin below) entries)
      | some (.tables earlier last) => do
          let last ← changeAt? change path last
          some (Entries.put step (.tables earlier last) entries)
      | some (.value _) => none

/-- A dotted key and its value. -/
structure Assignment where
  path : List String
  key : String
  value : Value

def assign? (entries : Nodes) (assignments : List Assignment) : Option Nodes :=
  assignments.foldlM (fun entries one => putDotted? one.key one.value one.path entries) entries

/-- A table or one more table of a list, and what stands below its header. -/
structure Section where
  isList : Bool
  path : List String
  key : String
  assignments : List Assignment

/-- Adds the table of a section to the table that its header stands in. -/
def Section.addTo? (part : Section) (entries : Nodes) : Option Nodes := do
  match part.isList, Entries.lookup part.key entries with
  | true, none =>
      let first ← assign? [] part.assignments
      some (Entries.put part.key (.tables [] first) entries)
  | true, some (.tables earlier last) =>
      let next ← assign? [] part.assignments
      some (Entries.put part.key (.tables (earlier ++ [last]) next) entries)
  | false, none =>
      let made ← assign? [] part.assignments
      some (Entries.put part.key (.table .header made) entries)
  | false, some (.table .mentioned below) =>
      let made ← assign? below part.assignments
      some (Entries.put part.key (.table .header made) entries)
  | _, some _ => none

def Section.add? (part : Section) (root : Nodes) : Option Nodes :=
  changeAt? part.addTo? part.path root

end Curfew.Toml
