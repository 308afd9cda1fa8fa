import Curfew.Number.Hexadecimal
import Curfew.Text.Alphanumeric
import Curfew.Text.Pieces

namespace Curfew.Text.Pattern

/-! Which texts are regular expressions that can be matched by a finite automaton over
characters: no references to groups, no looking around, no word boundaries beyond ASCII. -/

/-- How a part of a pattern is written and what it is about. -/
structure Modes where
  /-- Blanks and comments between the parts are skipped. -/
  spaced : Bool := false
  /-- The pattern is about characters and not about bytes. -/
  unicode : Bool := true
deriving DecidableEq, Repr

/-- What a backslash and the characters after it stand for. -/
inductive Escape where
  | literal (c : Char)
  | characters
  | position
deriving DecidableEq, Repr

/-- The value of exactly `count` hexadecimal digits, and what follows them. -/
def hexadecimal? (count : Nat) (text : List Char) : Option (Nat × List Char) := do
  let digits ← (text.take count).mapM Hexadecimal.digitValue?
  if digits.length = count then
    some (digits.foldl (fun total digit => 16 * total + digit) 0, text.drop count)
  else none

/-- A character given by its code point.  A single byte is one only in ASCII. -/
def codePoint? (modes : Modes) (count : Nat) (text : List Char) : Option (Escape × List Char) := do
  let (code, rest) ← hexadecimal? count text
  if !modes.unicode && code ≥ 128 then none
  else if code.isValidChar then some (.literal (Char.ofNat code), rest) else none

/-- The control character that a letter stands for. -/
def control? : Char → Option Char
  | 'a' => some '\x07'
  | 't' => some '\t'
  | 'n' => some '\n'
  | 'v' => some '\x0b'
  | 'f' => some '\x0c'
  | 'r' => some '\r'
  | _ => none

/-- What follows a backslash. -/
def escape? (modes : Modes) : List Char → Option (Escape × List Char)
  | [] => none
  | c :: rest =>
      let atPosition allowed := if allowed then some (Escape.position, rest) else none
      match c with
      | 'x' => codePoint? modes 2 rest
      | 'u' => codePoint? modes 4 rest
      | 'U' => codePoint? modes 8 rest
      | 'd' | 's' | 'w' => some (.characters, rest)
      | 'D' | 'S' | 'W' => if modes.unicode then some (.characters, rest) else none
      | 'p' | 'P' =>
          match rest with
          | category :: rest =>
              if modes.unicode && "CLMNPSZ".toList.contains category.toUpper then
                some (.characters, rest)
              else none
          | [] => none
      | 'A' | 'z' => atPosition true
      | 'b' | 'B' | '<' | '>' => atPosition !modes.unicode
      | c =>
          match control? c with
          | some control => some (.literal control, rest)
          | none => if c.toNat < 128 && !c.isAlphanum then some (.literal c, rest) else none

def skipSpace (modes : Modes) : List Char → List Char
  | [] => []
  | c :: rest =>
      if !modes.spaced then c :: rest
      else if isBlank c then skipSpace modes rest
      else if c = '#' then skipComment rest
      else c :: rest
where
  skipComment : List Char → List Char
    | [] => []
    | c :: rest => if c = '\n' then skipSpace modes rest else skipComment rest

def namedSets : List String :=
  ["alnum", "alpha", "ascii", "blank", "cntrl", "digit", "graph", "lower", "print", "punct",
    "space", "upper", "word", "xdigit"]

/-- What follows a named set such as `[:digit:]`, of which the first bracket is read. -/
def afterNamedSet? : List Char → Option (List Char)
  | ':' :: text =>
      let text := match text with | '^' :: text => text | text => text
      match text.drop (text.takeWhile (· ≠ ':')).length with
      | ':' :: ']' :: rest =>
          if namedSets.contains (String.ofList (text.takeWhile (· ≠ ':'))) then some rest else none
      | _ => none
  | _ => none

/-- One member of a set, or an end of a range. -/
def member? (modes : Modes) : List Char → Option (Escape × List Char)
  | [] => none
  | '\\' :: rest => escape? modes rest
  | c :: rest => if modes.unicode || c.toNat < 128 then some (.literal c, rest) else none

/-- What follows a member or a range. -/
def afterRange? (modes : Modes) (text : List Char) : Option (List Char) := do
  let (first, rest) ← member? modes text
  if first = .position then none
  else match skipSpace modes rest with
    | [] => none
    | '-' :: after =>
        match skipSpace modes after with
        | [] => none
        | ']' :: _ | '-' :: _ => some ('-' :: after)
        | after => do
            match first, (← member? modes after) with
            | .literal first, (.literal last, rest) => if first ≤ last then some rest else none
            | _, _ => none
    | rest => some rest

/-- What follows the bracket that opens a set, up to where its members begin.  Hyphens and
then, if there are none, a closing bracket are members here. -/
def afterOpening (modes : Modes) (text : List Char) : List Char :=
  let text := skipSpace modes text
  let text := match text with | '^' :: rest => skipSpace modes rest | text => text
  match text with
  | ']' :: rest => rest
  | text => text.dropWhile (· = '-')

/-- What follows a set that lies `depth` brackets deep.  At most `fuel` members are read. -/
def afterSet? (modes : Modes) : Nat → Nat → List Char → Option (List Char)
  | 0, _, _ => none
  | fuel + 1, depth, text =>
      match skipSpace modes text with
      | [] => none
      | '[' :: rest =>
          match afterNamedSet? rest with
          | some rest => afterSet? modes fuel depth rest
          | none => afterSet? modes fuel (depth + 1) (afterOpening modes rest)
      | ']' :: rest =>
          match depth with
          | 0 => some rest
          | depth + 1 => afterSet? modes fuel depth rest
      | '&' :: '&' :: rest | '-' :: '-' :: rest | '~' :: '~' :: rest =>
          afterSet? modes fuel depth rest
      | text => do afterSet? modes fuel depth (← afterRange? modes text)

/-- How a group begins. -/
inductive Opening where
  | plain (modes : Modes)
  | named (name : List Char)
  /-- Not a group but modes for the rest of the one that it is in. -/
  | setting (modes : Modes)
deriving DecidableEq, Repr

/-- Letters for modes, each at most once, with at most one minus sign, which is not the last
of them. -/
def modes? (flags : List Char) (modes : Modes) : Option Modes :=
  let off := (flags.dropWhile (· ≠ '-')).drop 1
  let on := flags.takeWhile (· ≠ '-')
  let letters := on ++ off
  if letters.Nodup && letters.all "imsURux".toList.contains && flags.getLast? ≠ some '-' then
    let set flag before := (before || on.contains flag) && !off.contains flag
    some { spaced := set 'x' modes.spaced, unicode := set 'u' modes.unicode }
  else none

def isName : List Char → Bool
  | [] => false
  | c :: rest =>
      (c == '_' || isAlphanumeric c && !c.isDigit) &&
        rest.all fun c => c == '_' || c == '.' || c == '[' || c == ']' || isAlphanumeric c

/-- What follows an opening parenthesis. -/
def opening? (modes : Modes) : List Char → Option (Opening × List Char)
  | '?' :: 'P' :: '<' :: text | '?' :: '<' :: text =>
      let name := text.takeWhile (· ≠ '>')
      match text.drop name.length with
      | _ :: rest => if isName name then some (.named name, rest) else none
      | [] => none
  | '?' :: text => do
      let flags := text.takeWhile fun c => c ≠ ':' && c ≠ ')'
      let inside ← modes? flags modes
      match text.drop flags.length with
      | ':' :: rest => some (.plain inside, rest)
      | ')' :: rest => if flags.isEmpty then none else some (.setting inside, rest)
      | _ => none
  | text => some (.plain modes, text)

/-- What is known of a pattern up to some position. -/
structure Progress where
  modes : Modes := {}
  /-- The modes outside each of the open groups, innermost first. -/
  outside : List Modes := []
  names : List (List Char) := []
  /-- Whether something stands here that can be repeated. -/
  repeatable : Bool := false
deriving DecidableEq, Repr

/-- Reads on, through at most `fuel` parts. -/
def isValidFrom : Nat → Progress → List Char → Bool
  | 0, _, _ => false
  | fuel + 1, progress, text =>
      let item := { progress with repeatable := true }
      match skipSpace progress.modes text with
      | [] => progress.outside.isEmpty
      | '(' :: rest =>
          let inside :=
            { progress with outside := progress.modes :: progress.outside, repeatable := false }
          match opening? progress.modes rest with
          | none => false
          | some (.plain modes, rest) => isValidFrom fuel { inside with modes } rest
          | some (.named name, rest) =>
              !progress.names.contains name &&
                isValidFrom fuel { inside with names := name :: progress.names } rest
          | some (.setting modes, rest) =>
              isValidFrom fuel { progress with modes, repeatable := false } rest
      | ')' :: rest =>
          match progress.outside with
          | [] => false
          | modes :: outside => isValidFrom fuel { item with modes, outside } rest
      | '|' :: rest => isValidFrom fuel { progress with repeatable := false } rest
      | '[' :: rest =>
          match afterSet? progress.modes (rest.length + 1) 0 (afterOpening progress.modes rest) with
          | none => false
          | some rest => isValidFrom fuel item rest
      | '*' :: rest | '+' :: rest | '?' :: rest =>
          progress.repeatable && isValidFrom fuel item rest
      | '{' :: _ => false
      | '.' :: rest => progress.modes.unicode && isValidFrom fuel item rest
      | '\\' :: rest =>
          match escape? progress.modes rest with
          | none => false
          | some (_, rest) => isValidFrom fuel item rest
      | _ :: rest => isValidFrom fuel item rest

/-- Whether a text without closing braces is a pattern.  So a count of repetitions, which ends in
a brace, is not completed. -/
def isValid (text : List Char) : Bool :=
  isValidFrom (text.length + 1) {} text

end Curfew.Text.Pattern
