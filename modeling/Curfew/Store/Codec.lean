import Curfew.Allowance.Record
import Curfew.Protector.Record
import Curfew.Text.Pieces

namespace Curfew

/-! How the value of a store is turned into text and back, and what the text is put into. -/

structure Codec (α ε : Type) where
  encode : α → String
  decode : String → Except ε α
  /-- What a store holds in which nothing has been stored yet. -/
  fallback : α

namespace Codec

/-- An allowance in which nothing has been stored yet is full from now on. -/
def allowance (daily : Duration) (now : Instant) : Codec AllowanceTracker AllowanceRecordError where
  encode := AllowanceTracker.toText
  decode := AllowanceTracker.ofText
  fallback := .full daily now

inductive StatesError where
  | notJson
deriving DecidableEq, Repr

def savedStates : Codec SavedStates StatesError where
  encode := SavedStates.toText
  decode text := match SavedStates.ofText? text with
    | some states => .ok states
    | none => .error .notJson
  fallback := .empty

inductive CounterError where
  | empty
  | invalidDigit
  | tooLarge
deriving DecidableEq, Repr

def CounterError.message : CounterError → String
  | .empty => "cannot parse integer from empty string"
  | .invalidDigit => "invalid digit found in string"
  | .tooLarge => "number too large to fit in target type"

/-- The first digit that is invalid or leads out of range decides on the error. -/
def readCounter (value : Nat) : List Char → Except CounterError Nat
  | [] => .ok value
  | c :: rest =>
      match Decimal.digitValue? c with
      | none => .error .invalidDigit
      | some digit =>
          if 10 * value + digit < 18446744073709551616 then readCounter (10 * value + digit) rest
          else .error .tooLarge

/-- Blanks around the digits and a plus sign before them are allowed. -/
def counterOf (text : String) : Except CounterError Nat :=
  match Text.trim text.toList with
  | [] => .error .empty
  | ['+'] => .error .invalidDigit
  | '+' :: digits => readCounter 0 digits
  | digits => readCounter 0 digits

/-- Counters that fit into 64 bits, in decimal notation. -/
def counter (fallback : Nat) : Codec Nat CounterError where
  encode := Decimal.text
  decode := counterOf
  fallback := fallback

inductive LabelError where
  | empty
deriving DecidableEq, Repr

def LabelError.message : LabelError → String
  | .empty => "empty label"

/-- Labels, which are texts that are not empty. -/
def label (fallback : String) : Codec String LabelError where
  encode := id
  decode text := if text.isEmpty then .error .empty else .ok text
  fallback := fallback

/-- Any text as it is. -/
def plain (fallback : String) : Codec String Empty where
  encode := id
  decode := .ok
  fallback := fallback

end Codec

/-- What can go wrong with a store. -/
inductive StoreError (ε : Type) where
  /-- The path is the one that the failing step is about. -/
  | disk (path : String)
  | database
  /-- What is stored at the location cannot be decoded. -/
  | undecodable (location : String) (cause : ε)
deriving DecidableEq, Repr

def undecodableMessage (location : String) : String :=
  s!"Failed to deserialize value stored in {location}"

/-- What a store amounts to as long as no disk fails: a text that may be there or not. -/
abbrev Cell := Option String

namespace Cell

variable {α ε : Type}

/-- The first read of an empty cell fills it with the fallback. -/
def read (codec : Codec α ε) : Cell → Cell × Except ε α
  | none => (some (codec.encode codec.fallback), .ok codec.fallback)
  | some text => (some text, codec.decode text)

def write (codec : Codec α ε) (value : α) (_ : Cell) : Cell := some (codec.encode value)

end Cell

end Curfew
