import Curfew.Json.Printer
import Curfew.Time.DailyWindow
import Curfew.Time.Instant

namespace Curfew.Json

/-! Domain values as JSON. -/

class Record (α : Type) where
  encode : α → Value
  decode? : Tree → Option α

namespace Record

def ofText? (α : Type) [Record α] (text : String) : Option α :=
  (Tree.ofText? text).bind decode?

def toText [Record α] (value : α) : String :=
  (encode value).text

end Record

def natural (n : Nat) : Value := .number (.integer n)

def integer (n : Int) : Value := .number (.integer n)

def integerOf? : Tree → Option Int
  | .number literal =>
      match numberOf? literal with
      | some (.integer value) => some value
      | _ => none
  | _ => none

def naturalOf? (tree : Tree) : Option Nat := do
  match ← integerOf? tree with
  | .ofNat value => some value
  | .negSucc _ => none

/-- A name out of a fixed list, alone or as the only key of an object, over null. -/
def tagOf? (read : String → Option α) : Tree → Option α
  | .string literal => (stringOf? literal).bind read
  | .object [(key, .null)] => (stringOf? key).bind read
  | _ => none

/-- The one value of a key among the members, whose keys must all be readable. -/
def fieldOf? (name : String) (members : List (StringLiteral × Tree)) : Option Tree := do
  let keyed ← members.mapM fun (key, value) => (stringOf? key).map fun key => (key, value)
  match keyed.filter fun member => member.1 == name with
  | [(_, value)] => some value
  | _ => none

instance : Record Duration where
  encode span := natural span.milliseconds
  decode? tree := do (Duration.ofMilliseconds (← naturalOf? tree)).toOption

instance : Record TimeOfDay where
  encode time := natural time.milliseconds
  decode? tree := do (TimeOfDay.ofMilliseconds (← naturalOf? tree)).toOption

instance : Record Instant where
  encode instant := integer instant.milliseconds
  decode? tree := do (Instant.ofMilliseconds (← integerOf? tree)).toOption

/-- Both ends by name, in any order and among other members, or as a list of two. -/
instance : Record DailyWindow where
  encode window := .object [("from", natural window.opens), ("till", natural window.closes)]
  decode? tree := do
    let (opens, closes) ← match tree with
      | .array [opens, closes] => some (opens, closes)
      | .object members => do some ((← fieldOf? "from" members), (← fieldOf? "till" members))
      | _ => none
    (DailyWindow.ofMilliseconds (← naturalOf? opens) (← naturalOf? closes)).toOption

instance : Record Weekday where
  encode day := .string day.tag
  decode? := tagOf? Weekday.ofTag?

/-- A mask of eight bits, of which the last is dropped. -/
instance : Record WeekdaySet where
  encode set := natural set.bitmask
  decode? tree := do
    let mask ← naturalOf? tree
    if mask < 256 then some (WeekdaySet.ofBitmask mask) else none

instance : Record String where
  encode text := .string text
  decode?
    | .string literal => stringOf? literal
    | _ => none

end Curfew.Json
