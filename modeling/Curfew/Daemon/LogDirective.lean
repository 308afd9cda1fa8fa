import Curfew.Service.Log
import Curfew.Text.Pattern
import Curfew.Text.Pieces

namespace Curfew

/-! One directive of a log filter: a level, a target, `target=level`, or
`target[span{field=value}]=level`, in which what stands between the brackets narrows down what
the directive is about. -/

inductive DirectiveError where
  | invalid
  /-- A part of the directive would have to begin or end inside a character. -/
  | unreadable
deriving DecidableEq, Repr

/-- A level by its number, perhaps after a plus sign, or by its name in any case. -/
def LogLevel.ofText? (text : String) : Option LogLevel :=
  let digits := match text.toList with
    | '+' :: digits => digits
    | digits => digits
  let all : List LogLevel := [.off, .error, .warn, .info, .debug, .trace]
  match Decimal.read? digits with
  | some number => all.find? (·.rank == number)
  | none => all.find? fun level => level.name == text.toUpper

/-- A field that is asked for.  A value can be asked for too. -/
structure FieldCondition where
  name : String
  value : Option String := none
deriving DecidableEq, Repr

namespace FieldCondition

/-- Whether a text without a sign is a decimal fraction, with or without an exponent. -/
def isFraction (text : List Char) : Bool :=
  let isExponent (text : List Char) := match text with
    | [] => true
    | 'e' :: '+' :: digits | 'e' :: '-' :: digits => (Decimal.read? digits).isSome
    | 'E' :: '+' :: digits | 'E' :: '-' :: digits => (Decimal.read? digits).isSome
    | 'e' :: digits | 'E' :: digits => (Decimal.read? digits).isSome
    | _ => false
  let whole := text.takeWhile Decimal.isDigit
  match text.drop whole.length with
  | '.' :: rest =>
      let decimals := rest.takeWhile Decimal.isDigit
      !(whole.isEmpty && decimals.isEmpty) && isExponent (rest.drop decimals.length)
  | rest => !whole.isEmpty && isExponent rest

def isNumber (text : List Char) : Bool :=
  let unsigned := match text with
    | '+' :: rest | '-' :: rest => rest
    | text => text
  isFraction unsigned ||
    ["inf", "infinity", "nan"].contains (String.ofList (unsigned.map Char.toLower))

/-- A name, or a name and a value, which is a number or a pattern.  What follows a second equals
sign is left out. -/
def ofText? (text : String) : Option FieldCondition :=
  if text.isEmpty then none
  else match (Text.pieces '=' text.toList) with
    | name :: value :: _ =>
        if isNumber value || Text.Pattern.isValid value then
          some ⟨String.ofList name, some (String.ofList value)⟩
        else none
    | _ => some ⟨text, none⟩

end FieldCondition

/-- The level at which the parts of the program are shown whose name begins with the
target. -/
structure LogDirective where
  target : String := ""
  span : Option String := none
  field : Option FieldCondition := none
  level : LogLevel := .trace
deriving DecidableEq, Repr

namespace LogDirective

def startsTarget (c : Char) : Bool :=
  c == '-' || c == ':' || c == '_' || Text.isAlphanumeric c

/-- The part of a text between two positions in bytes. -/
def cut (text : List Char) (first last : Nat) : Except DirectiveError String :=
  match Text.splitBytes? first text with
  | none => .error .unreadable
  | some (_, rest) =>
      match Text.splitBytes? (last - first) rest with
      | none => .error .unreadable
      | some (part, _) => .ok (String.ofList part)

/-- The level takes all that is left of the text.  No level at all is the lowest. -/
def readLevel (text : List Char) (position : Nat) (directive : LogDirective) :
    Except DirectiveError LogDirective := do
  let level ← cut text position (Text.width text)
  if level.isEmpty then return { directive with level := .trace }
  match LogLevel.ofText? level with
  | some level => return { directive with level }
  | none => throw .invalid

/-- Reads what follows the closing bracket. -/
def readEnd (text : List Char) (position : Nat) (rest : List Char) (directive : LogDirective) :
    Except DirectiveError LogDirective :=
  match rest with
  | [] => .ok directive
  | '=' :: _ => readLevel text (position + 1) directive
  | _ => .error .invalid

/-- Reads what follows the opening brace. -/
def readField (text : List Char) (position : Nat) (rest : List Char) (directive : LogDirective) :
    Except DirectiveError LogDirective := do
  let body := rest.takeWhile (· ≠ '\x7d')
  let last := position + Text.width body
  match rest.drop body.length with
  | [] => throw .invalid
  | _ :: rest =>
      match FieldCondition.ofText? (← cut text position last), rest with
      | some field, ']' :: rest =>
          readEnd text (last + 2) rest { directive with field := some field }
      | _, _ => throw .invalid

/-- Reads what follows the opening bracket. -/
def readSpan (text : List Char) (position : Nat) (rest : List Char) (directive : LogDirective) :
    Except DirectiveError LogDirective := do
  let name := rest.takeWhile fun c => c ≠ ']' && c ≠ '\x7b'
  let last := position + Text.width name
  match rest.drop name.length with
  | [] => throw .invalid
  | ']' :: rest =>
      let span ← cut text position last
      readEnd text (last + 1) rest { directive with span := some span }
  | _ :: rest =>
      let span ← cut text position last
      readField text (last + 1) rest
        { directive with span := if span.isEmpty then none else some span }

/-- The marks are looked for in the text without the blanks around it, but their positions are
taken as positions in the text with them. -/
def read (text : List Char) : Except DirectiveError LogDirective :=
  match Text.trim text with
  | [] => .error .invalid
  | '[' :: rest => readSpan text 1 rest {}
  | c :: rest => do
      let inner := c :: rest
      if !startsTarget c then throw .invalid
      let head := inner.takeWhile fun c => c ≠ '=' && c ≠ '['
      let last := Text.width head
      match inner.drop head.length with
      | [] =>
          match LogLevel.ofText? (String.ofList text) with
          | some level => return { level }
          | none => return { target := String.ofList text }
      | '=' :: _ => do readLevel text (last + 1) { target := (← cut text 0 last) }
      | _ :: rest => do readSpan text (last + 1) rest { target := (← cut text 0 last) }

/-- Whether the directive says anything about notices.  The program has no spans, and the values of
fields are not looked at outside of them. -/
def countsForNotices (directive : LogDirective) : Bool :=
  directive.span.isNone && (directive.field.bind (·.value)).isNone

/-- The fields that a notice has to have. -/
def fieldNames (directive : LogDirective) : List String :=
  directive.field.toList.map (·.name)

/-- Whether two directives are about the same notices. -/
def sameScope (a b : LogDirective) : Bool :=
  a.target == b.target && a.fieldNames == b.fieldNames

/-- Whether a directive says more about its notices than another: by a longer target, by a field,
or by one that comes later in the alphabet. -/
def isMoreSpecific (a b : LogDirective) : Bool :=
  let length (directive : LogDirective) := directive.target.utf8ByteSize
  if length a ≠ length b then length a > length b
  else match a.field.map (·.name), b.field.map (·.name) with
    | some a, some b => b < a
    | some _, none => true
    | none, _ => false

end LogDirective

end Curfew
