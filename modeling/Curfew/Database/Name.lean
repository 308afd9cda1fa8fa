import Curfew.Number.Hexadecimal
import Curfew.Text.Pieces

namespace Curfew

/-! The name under which a database is opened.  It is a path, or `file:` and a path, after which
there may be options. -/

namespace Text.Percent

/-- The byte of the first two characters. -/
def byte? : List Char → Option UInt8
  | high :: low :: _ => Hexadecimal.byte? high low
  | _ => none

/-- A percent sign without two digits after it stands for itself. -/
def bytes : List Char → List UInt8
  | [] => []
  | c :: rest =>
      match if c = '%' then byte? rest else none with
      | some byte => byte :: bytes (rest.drop 2)
      | none => String.utf8EncodeChar c ++ bytes rest
termination_by text => text.length
decreasing_by all_goals simp only [List.length_drop, List.length_cons]; omega

/-- What is written up to the first zero byte, if that is a text. -/
def decode? (text : List Char) : Option String :=
  String.fromUTF8? ⟨((bytes text).takeWhile (· ≠ 0)).toArray⟩

end Text.Percent

inductive DatabaseMode where
  | readOnly
  | readWrite
  /-- A file that is missing is made. -/
  | create
  | memory
deriving DecidableEq, Repr

namespace DatabaseMode

def ofName? : String → Option DatabaseMode
  | "ro" => some .readOnly
  | "rw" => some .readWrite
  | "rwc" => some .create
  | "memory" => some .memory
  | _ => none

def rank : DatabaseMode → Nat
  | .readOnly => 0
  | .readWrite => 1
  | .create => 2
  | .memory => 3

/-- A mode can be given up for a lower one, and each of them for memory. -/
def admits (mode next : DatabaseMode) : Bool :=
  decide (next = .memory) || decide (next.rank ≤ mode.rank)

end DatabaseMode

structure DatabaseName where
  path : String
  mode : DatabaseMode := .create
  /-- By what the database is kept. -/
  keeper : String := "unix"
  /-- Whether the name promises that nobody changes the file. -/
  isImmutable : Bool := false
  /-- Another file, which must be there because it lends its permissions. -/
  lender : Option String := none
deriving DecidableEq, Repr

namespace DatabaseName

/-- Whether the database is kept in memory and goes with its connection. -/
def inMemory (name : DatabaseName) : Bool :=
  decide (name.mode = .memory) || name.keeper == "memdb" || name.path == "" ||
    name.path == ":memory:"

def isWritable (name : DatabaseName) : Bool :=
  decide (name.mode ≠ .readOnly) && (name.inMemory || !name.isImmutable)

def keepers : List String := ["unix", "unix-none", "unix-dotfile", "unix-excl", "memdb"]

/-- An option that the name cannot have takes it away; options of other kinds mean nothing. -/
def withOption? (name : DatabaseName) : String × String → Option DatabaseName
  | ("mode", value) => do
      let mode ← DatabaseMode.ofName? value
      if name.mode.admits mode then some { name with mode } else none
  | ("cache", value) => if value == "shared" || value == "private" then some name else none
  | ("vfs", keeper) => some { name with keeper }
  | _ => some name

/-- Whether the value of an option says yes: by a word, or by a number other than zero. -/
def isYes (value : String) : Bool :=
  let digits := value.toList.takeWhile Char.isDigit
  ["on", "yes", "true"].contains (value.map Char.toLower) || digits.any (· ≠ '0')

/-- The text before the first mark, and the text after it. -/
def cut (mark : Char) (text : List Char) : List Char × List Char :=
  (text.takeWhile (· ≠ mark), (text.dropWhile (· ≠ mark)).drop 1)

/-- Options without a name do not count. -/
def optionsOf? (text : List Char) : Option (List (String × String)) := do
  let options ← (Text.pieces '&' text).mapM fun option => do
    let (name, value) := cut '=' option
    some (← Text.Percent.decode? name, ← Text.Percent.decode? value)
  some (options.filter fun option => option.1 ≠ "")

/-- What follows the machine, which can only be this one. -/
def afterHost? : List Char → Option (List Char)
  | '/' :: '/' :: rest =>
      if ["", "localhost"].contains (String.ofList (rest.takeWhile (· ≠ '/'))) then
        some (rest.dropWhile (· ≠ '/'))
      else none
  | text => some text

/-- The name after `file:`.  It ends before a number sign. -/
def readDetailed? (text : List Char) : Option DatabaseName := do
  let (path, options) := cut '?' ((← afterHost? text).takeWhile (· ≠ '#'))
  let path ← Text.Percent.decode? path
  let options ← optionsOf? options
  let isImmutable := ((options.lookup "immutable").map isYes).getD false
  let name ← options.foldlM withOption?
    { path, isImmutable, lender := options.lookup "modeof" }
  if keepers.contains name.keeper then some name else none

def read? (text : String) : Option DatabaseName :=
  if text.toList.contains '\x00' then none
  else match text.toList with
    | 'f' :: 'i' :: 'l' :: 'e' :: ':' :: rest => readDetailed? rest
    | _ => some { path := text }

end DatabaseName

end Curfew
