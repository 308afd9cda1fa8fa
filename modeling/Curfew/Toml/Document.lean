import Curfew.Toml.Value

namespace Curfew.Toml

/-! Whole TOML texts. -/

def skipComment : List Char → List Char
  | '#' :: rest => rest.dropWhile isPlain
  | text => text

/-- The end of a line: blanks, perhaps a comment, and a break or the end of the text. -/
def lineEnd? (text : List Char) : Option (List Char) :=
  match skipComment (skipBlanks text) with
  | [] => some []
  | rest => newline? rest

/-- Blanks, breaks and comments; a comment runs up to a break. -/
def skipFiller : Nat → List Char → List Char
  | 0, text => text
  | fuel + 1, text =>
      let rest := skipBlanks text
      match newline? (skipComment rest) with
      | some rest => skipFiller fuel rest
      | none => rest

/-- The last key of a dotted key and the ones before it. -/
def splitKey? (keys : List String) : Option (List String × String) :=
  keys.getLast?.map fun key => (keys.dropLast, key)

def readNumberOrDate? (text : List Char) : Option (Value × List Char) :=
  ((readDateTime? text).map fun (_, rest) => (.dateTime, rest)).or <|
    ((readFloat? text).map fun (_, rest) => (.float, rest)).or <|
    ((readSpecial? text).map fun (_, rest) => (.float, rest)).or <|
    (readInteger? text).map fun (value, rest) => (.integer value, rest)

mutual

/-- A value whose arrays and inline tables are nested less than `depth` levels. -/
def readValue? (depth : Nat) : Nat → Reader Value
  | 0, _ => none
  | _ + 1, [] => none
  | fuel + 1, c :: rest =>
      match c with
      | '"' | '\'' => (readString? (c :: rest)).map fun (text, rest) => (.string text, rest)
      | 't' => (dropPrefix? "rue".toList rest).map fun rest => (.boolean true, rest)
      | 'f' => (dropPrefix? "alse".toList rest).map fun rest => (.boolean false, rest)
      | '[' =>
          if depth ≤ 1 then none
          else
            (readItems? (depth - 1) fuel rest).map fun (items, rest) => (.array items, rest)
      | '\x7b' =>
          if depth ≤ 1 then none
          else match skipBlanks rest with
            | '\x7d' :: rest => some (.table [], rest)
            | _ => do
                let (assignments, rest) ← readMembers? (depth - 1) fuel rest
                let entries ← assign? [] assignments
                some (.table (closeAll entries), rest)
      | _ => readNumberOrDate? (c :: rest)

/-- The items of an array up to its closing bracket; the last may be followed by a comma. -/
def readItems? (depth : Nat) : Nat → Reader (List Value)
  | 0, _ => none
  | fuel + 1, text =>
      match skipFiller text.length text with
      | ']' :: rest => some ([], rest)
      | start => do
          let (item, rest) ← readValue? depth fuel start
          match skipFiller rest.length rest with
          | ',' :: rest =>
              (readItems? depth fuel rest).map fun (items, rest) => (item :: items, rest)
          | ']' :: rest => some ([item], rest)
          | _ => none

/-- The members of an inline table up to its closing brace. -/
def readMembers? (depth : Nat) : Nat → Reader (List Assignment)
  | 0, _ => none
  | fuel + 1, text => do
      let (keys, rest) ← readKey? text
      let (path, key) ← splitKey? keys
      let rest ← readMark? (· == '=') rest
      let (value, rest) ← readValue? depth fuel (skipBlanks rest)
      let assignment : Assignment := ⟨path, key, value⟩
      match skipBlanks rest with
      | ',' :: rest =>
          (readMembers? depth fuel rest).map fun (more, rest) => (assignment :: more, rest)
      | '\x7d' :: rest => some ([assignment], rest)
      | _ => none

end

/-- A key and its value, up to the end of the line. -/
def readAssignment? (text : List Char) : Option (Assignment × List Char) := do
  let (keys, rest) ← readKey? text
  let (path, key) ← splitKey? keys
  let rest ← readMark? (· == '=') rest
  let (value, rest) ← readValue? nestingLimit (2 * rest.length + 2) (skipBlanks rest)
  some (⟨path, key, value⟩, (← lineEnd? rest))

/-- A header, up to the end of the line: whether it adds to a list, and its key. -/
def readHeader? (text : List Char) : Option ((Bool × List String) × List Char) := do
  let (isList, rest) ← match text with
    | '[' :: '[' :: rest => some (true, rest)
    | '[' :: rest => some (false, rest)
    | _ => none
  let (keys, rest) ← readKey? rest
  let rest ← dropPrefix? (if isList then [']', ']'] else [']']) rest
  some ((isList, keys), (← lineEnd? rest))

inductive Line where
  | header (isList : Bool) (keys : List String)
  | assignment (assignment : Assignment)

/-- The lines of a text that are neither empty nor comments. -/
def readLines? : Nat → List Char → Option (List Line)
  | 0, _ => none
  | fuel + 1, text =>
      match skipFiller text.length text with
      | [] => some []
      | '#' :: comment => if (comment.dropWhile isPlain).isEmpty then some [] else none
      | '[' :: rest => do
          let ((isList, keys), rest) ← readHeader? ('[' :: rest)
          (readLines? fuel rest).map (.header isList keys :: ·)
      | start => do
          let (assignment, rest) ← readAssignment? start
          (readLines? fuel rest).map (.assignment assignment :: ·)

/-- The assignments before the next header, and what follows them. -/
def leading : List Line → List Assignment × List Line
  | .assignment one :: rest =>
      let (more, rest) := leading rest
      (one :: more, rest)
  | rest => ([], rest)

/-- Adds the sections one after the other. -/
def addSections? : Nat → List Line → Nodes → Option Nodes
  | _, [], root => some root
  | 0, _ :: _, _ => none
  | _ + 1, .assignment _ :: _, _ => none
  | fuel + 1, .header isList keys :: rest, root => do
      let (path, key) ← splitKey? keys
      let (assignments, rest) := leading rest
      addSections? fuel rest (← Section.add? ⟨isList, path, key, assignments⟩ root)

/-- The top-level members of a text.  A byte order mark at its start is skipped. -/
def members? (text : String) : Option (List (String × Value)) := do
  let chars := match text.toList with
    | '\uFEFF' :: rest => rest
    | chars => chars
  let lines ← readLines? (chars.length + 1) chars
  let (assignments, sections) := leading lines
  let root ← assign? [] assignments
  some (closeAll (← addSections? sections.length sections root))

end Curfew.Toml
