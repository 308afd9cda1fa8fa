import Curfew.Text.Pieces

namespace Curfew

/-! Paths as texts: names between slashes.  An empty name and a single dot name nothing. -/

namespace Path

def isAbsolute (path : String) : Bool := path.startsWith "/"

/-- A path below a directory.  An absolute path stays as it is, and no slash is added
to an empty directory or after a slash. -/
def join (directory path : String) : String :=
  if isAbsolute path then path
  else if directory.isEmpty || directory.endsWith "/" then directory ++ path
  else directory ++ "/" ++ path

def joinAll (directory : String) (paths : List String) : String :=
  paths.foldl join directory

/-- What stands between the slashes. -/
def partsOf (path : String) : List String :=
  (Text.pieces '/' path.toList).map String.ofList

/-- Whether a part of a path names nothing. -/
def isIdle (part : String) : Bool := part == "" || part == "."

def names (path : String) : List String := (partsOf path).filter fun part => !isIdle part

/-- Whether the path ends in a slash or a dot, so that only a directory can be meant. -/
def namesDirectory (path : String) : Bool := ((partsOf path).getLast?.map isIdle).getD false

/-- Whether the path ends in a dot, slashes after it apart. -/
def endsInDot (path : String) : Bool :=
  ((partsOf path).reverse.dropWhile (· == "")).head? == some "."

def dropIdleEnd (parts : List String) : List String :=
  (parts.reverse.dropWhile isIdle).reverse

/-- The first part, and the others up to the last that names something. -/
def headAndBody (path : String) : String × List String :=
  match partsOf path with
  | [] => ("", [])
  | head :: others => (head, dropIdleEnd others)

/-- The path without its last name, if it has one. -/
def parent? (path : String) : Option String :=
  let (head, body) := headAndBody path
  if body.isEmpty then if head.isEmpty then none else some ""
  else
    let above := "/".intercalate (head :: dropIdleEnd body.dropLast)
    some (if above.isEmpty then "/" else above)

/-- The last name, unless it only leads to the directory above. -/
def fileName? (path : String) : Option String :=
  let (head, body) := headAndBody path
  let last := body.getLast?.getD head
  if isIdle last || last == ".." then none else some last

/-- Another file in the same directory. -/
def withFileName (path name : String) : String :=
  match fileName? path with
  | some _ => join ((parent? path).getD "") name
  | none => join path name

/-- The path of the first part and the others, which are given last first, and the paths that
lead there, outermost last.  The root is none of them. -/
def leading (head : String) : List String → List String
  | [] => if head.isEmpty then [] else [head]
  | part :: before =>
      if isIdle part then leading head before
      else "/".intercalate (head :: (part :: before).reverse) :: leading head before

/-- A path and the paths of the directories above it, outermost last.  Neither the root nor the
empty path is among them. -/
def ancestors (path : String) : List String :=
  let (head, body) := headAndBody path
  match leading head body.reverse with
  | [] => []
  | _ :: above => path :: above

/-- The longest path that can be followed, in bytes. -/
def maxWidth : Nat := 4095

/-- The longest name that a file can have, in bytes. -/
def maxNameWidth : Nat := 255

end Path

/-- The names from the root down to a file or directory. -/
abbrev Location := List String

namespace Location

def text (location : Location) : String := "/" ++ "/".intercalate location

/-- The file in the same directory whose name goes on with the given ending. -/
def beside (location : Location) (ending : String) : Location :=
  location.dropLast ++ (location.getLast?.map (· ++ ending)).toList

end Location

end Curfew
