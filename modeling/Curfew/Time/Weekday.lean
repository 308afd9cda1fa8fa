import Curfew.Text.LetterCase

namespace Curfew

/-! Days of the week and sets of them. -/

inductive Weekday where
  | mon
  | tue
  | wed
  | thu
  | fri
  | sat
  | sun
deriving DecidableEq, Repr

namespace Weekday

/-- The week, from Monday on. -/
def all : List Weekday :=
  [.mon, .tue, .wed, .thu, .fri, .sat, .sun]

/-- Counted from Monday, which is 0. -/
def number : Weekday → Fin 7
  | .mon => 0
  | .tue => 1
  | .wed => 2
  | .thu => 3
  | .fri => 4
  | .sat => 5
  | .sun => 6

def ofNumber (number : Fin 7) : Weekday :=
  all.get number

def ofNumber? (number : Nat) : Option Weekday :=
  all[number]?

theorem number_ofNumber (number : Fin 7) : (ofNumber number).number = number := by
  revert number; decide

/-- The weekday of a day counted from 1 January 1970, a Thursday. -/
def ofDay (day : Int) : Weekday :=
  ofNumber ⟨((day + 3) % 7).toNat, by omega⟩

def shortName : Weekday → String
  | .mon => "Mon"
  | .tue => "Tue"
  | .wed => "Wed"
  | .thu => "Thu"
  | .fri => "Fri"
  | .sat => "Sat"
  | .sun => "Sun"

/-- The name used in records. -/
def tag : Weekday → String
  | .mon => "mon"
  | .tue => "tue"
  | .wed => "wed"
  | .thu => "thu"
  | .fri => "fri"
  | .sat => "sat"
  | .sun => "sun"

def longName : Weekday → String
  | .mon => "monday"
  | .tue => "tuesday"
  | .wed => "wednesday"
  | .thu => "thursday"
  | .fri => "friday"
  | .sat => "saturday"
  | .sun => "sunday"

def ofTag? (tag : String) : Option Weekday :=
  all.find? fun day => day.tag == tag

/-- Reads a short or long English name in any letter case. -/
def ofName? (name : String) : Option Weekday :=
  let lowered := String.ofList (Text.lowercase name.toList)
  all.find? fun day => day.tag == lowered || day.longName == lowered

end Weekday

/-- One bit per weekday, Monday lowest. -/
structure WeekdaySet where
  mask : BitVec 7
deriving DecidableEq, Repr

namespace WeekdaySet

def empty : WeekdaySet := ⟨0#7⟩
def all : WeekdaySet := ⟨0x7F#7⟩
def weekdays : WeekdaySet := ⟨0x1F#7⟩
def weekends : WeekdaySet := ⟨0x60#7⟩

/-- Bits beyond the seventh are dropped. -/
def ofBitmask (mask : Nat) : WeekdaySet := ⟨BitVec.ofNat 7 mask⟩

def bitmask (set : WeekdaySet) : Nat := set.mask.toNat

def bit (day : Weekday) : BitVec 7 := BitVec.twoPow 7 day.number

def single (day : Weekday) : WeekdaySet := ⟨bit day⟩

def contains (set : WeekdaySet) (day : Weekday) : Bool :=
  set.mask.getLsbD day.number

def add (set : WeekdaySet) (day : Weekday) : WeekdaySet := ⟨set.mask ||| bit day⟩

def remove (set : WeekdaySet) (day : Weekday) : WeekdaySet := ⟨set.mask &&& ~~~bit day⟩

def toggle (set : WeekdaySet) (day : Weekday) : WeekdaySet := ⟨set.mask ^^^ bit day⟩

def union (set other : WeekdaySet) : WeekdaySet := ⟨set.mask ||| other.mask⟩

def ofList (days : List Weekday) : WeekdaySet :=
  days.foldl add empty

/-- The members, from Monday on. -/
def toList (set : WeekdaySet) : List Weekday :=
  Weekday.all.filter set.contains

def size (set : WeekdaySet) : Nat := set.toList.length

def isEmpty (set : WeekdaySet) : Bool := set.mask == 0#7

def text (set : WeekdaySet) : String :=
  "[" ++ ", ".intercalate (set.toList.map Weekday.shortName) ++ "]"

/-- The bits, Sunday first. -/
def debugText (set : WeekdaySet) : String :=
  let bits := Weekday.all.reverse.map fun day => if set.contains day then '1' else '0'
  "WeekdaySet(" ++ String.ofList bits ++ ")"

end WeekdaySet

end Curfew
