import Curfew.Json.Tree
import Curfew.Number.Binary64

namespace Curfew.Json

/-! JSON values.  A number is an integer when it is written as one and fits into 64
bits, signed or unsigned; any other number is a binary one, and `-0` is among these. -/

inductive Number where
  | integer (value : Int)
  | binary (value : Binary64)
deriving DecidableEq, Repr

inductive Value where
  | null
  | bool (value : Bool)
  | number (value : Number)
  | string (value : String)
  | array (items : List Value)
  | object (members : List (String × Value))
deriving Repr

instance : Inhabited Value := ⟨.null⟩

/-- The characters of a string.  A surrogate must be followed by the other half of its
pair, also written as an escape. -/
def charsOf? : StringLiteral → Option (List Char)
  | [] => some []
  | .char c :: rest => (charsOf? rest).map (c :: ·)
  | .unit high :: .unit low :: rest =>
      if 0xD800 ≤ high ∧ high ≤ 0xDBFF then
        if 0xDC00 ≤ low ∧ low ≤ 0xDFFF then
          (charsOf? rest).map
            (Char.ofNat (0x10000 + 0x400 * (high - 0xD800) + (low - 0xDC00)) :: ·)
        else none
      else if 0xDC00 ≤ high ∧ high ≤ 0xDFFF then none
      else (charsOf? (.unit low :: rest)).map (Char.ofNat high :: ·)
  | .unit code :: rest =>
      if 0xD800 ≤ code ∧ code ≤ 0xDFFF then none
      else (charsOf? rest).map (Char.ofNat code :: ·)

def stringOf? (literal : StringLiteral) : Option String :=
  (charsOf? literal).map String.ofList

/-- Takes digits for as long as they fit into 64 bits together. -/
def accumulate (total : Nat) : List Char → Nat × List Char
  | [] => (total, [])
  | c :: rest =>
      let next := 10 * total + (Decimal.digitValue? c).getD 0
      if next < 18446744073709551616 then accumulate next rest else (total, c :: rest)

/-- The power of ten written after a number.  One too large to be counted is none when
it would enlarge the number, and otherwise makes it zero. -/
inductive Scale where
  | by (power : Int)
  | vanishing
  | overflowing

def Scale.of (start : Int) : Option (Bool × List Char) → Scale
  | none => .by start
  | some (negative, digits) =>
      let power := Decimal.value digits
      if power < 2147483648 then .by (if negative then start - power else start + power)
      else if negative then .vanishing
      else .overflowing

/-- The binary number of a literal.  Digits beyond the first 64 bits only count as
places. -/
def binaryOf? (literal : NumberLiteral) : Option Binary64 :=
  let (whole, beyond) := accumulate 0 literal.whole
  let (digits, dropped) := accumulate whole (literal.fraction.getD [])
  let places := (literal.fraction.getD []).length - dropped.length
  match Scale.of (beyond.length - places) literal.exponent with
  | .by power => Binary64.ofDigits? literal.negative digits power
  | .vanishing => some (Binary64.zero literal.negative)
  | .overflowing => if digits = 0 then some (Binary64.zero literal.negative) else none

def numberOf? (literal : NumberLiteral) : Option Number :=
  let size := Decimal.value literal.whole
  if literal.fraction.isNone ∧ literal.exponent.isNone ∧
      (if literal.negative then 0 < size ∧ size ≤ 9223372036854775808
        else size < 18446744073709551616) then
    some (.integer (if literal.negative then -size else size))
  else (binaryOf? literal).map .binary

/-- The value of a tree whose arrays and objects are nested at most `depth` levels. -/
def Value.ofTree? : Nat → Tree → Option Value
  | _, .null => some .null
  | _, .bool value => some (.bool value)
  | _, .number literal => (numberOf? literal).map .number
  | _, .string literal => (stringOf? literal).map .string
  | 0, .array _ => none
  | 0, .object _ => none
  | depth + 1, .array items => (items.mapM (ofTree? depth)).map .array
  | depth + 1, .object members =>
      (members.mapM fun (key, value) => do
        some ((← stringOf? key), (← ofTree? depth value))).map .object

/-- The number of levels to which values may be nested. -/
def Value.maximumDepth : Nat := 127

def Value.ofText? (text : String) : Option Value :=
  (Tree.ofText? text).bind (Value.ofTree? Value.maximumDepth)

end Curfew.Json
