import Curfew.Number.Binary64
import Curfew.Number.Hexadecimal
import Curfew.Time.Calendar

namespace Curfew.Toml

/-! The scalars of a TOML text: strings, keys, numbers and dates.  Every reader takes
the text at which it stands and gives what it read and what follows it. -/

abbrev Reader (α : Type) := List Char → Option (α × List Char)

def isBlank (c : Char) : Bool := c == ' ' || c == '\t'

def skipBlanks (text : List Char) : List Char := text.dropWhile isBlank

/-- A line break at the front is left out. -/
def newline? : List Char → Option (List Char)
  | '\n' :: rest => some rest
  | '\r' :: '\n' :: rest => some rest
  | _ => none

def dropPrefix? : List Char → List Char → Option (List Char)
  | [], text => some text
  | _ :: _, [] => none
  | c :: expected, first :: rest => if c = first then dropPrefix? expected rest else none

/-- Tabs and everything that is no control character. -/
def isPlain (c : Char) : Bool :=
  c == '\t' || (0x20 ≤ c.toNat && c.toNat != 0x7F)

/-- The character of a code point written in so many hexadecimal digits. -/
def readCodePoint? (width : Nat) : Reader Char := fun text => do
  let digits ← (text.take width).mapM Hexadecimal.digitValue?
  if digits.length < width then none
  let code := digits.foldl (fun total digit => 16 * total + digit) 0
  if valid : code.isValidChar then some (Char.ofNatAux code valid, text.drop width) else none

/-- What follows a backslash. -/
def readEscape? : Reader Char
  | 'b' :: rest => some ('\x08', rest)
  | 't' :: rest => some ('\t', rest)
  | 'n' :: rest => some ('\n', rest)
  | 'f' :: rest => some ('\x0c', rest)
  | 'r' :: rest => some ('\r', rest)
  | '"' :: rest => some ('"', rest)
  | '\\' :: rest => some ('\\', rest)
  | 'u' :: rest => readCodePoint? 4 rest
  | 'U' :: rest => readCodePoint? 8 rest
  | _ => none

/-- The rest of a string on one line, after its opening quote. -/
def readBasic? : Nat → Reader (List Char)
  | 0, _ => none
  | _ + 1, [] => none
  | _ + 1, '"' :: rest => some ([], rest)
  | fuel + 1, '\\' :: rest => do
      let (c, rest) ← readEscape? rest
      (readBasic? fuel rest).map fun (chars, rest) => (c :: chars, rest)
  | fuel + 1, c :: rest =>
      if isPlain c then (readBasic? fuel rest).map fun (chars, rest) => (c :: chars, rest)
      else none

/-- The rest of a string without escapes on one line, after its opening quote. -/
def readLiteral? (text : List Char) : Option (List Char × List Char) :=
  let chars := text.takeWhile fun c => isPlain c && c != '\''
  match text.drop chars.length with
  | '\'' :: rest => some (chars, rest)
  | _ => none

/-- Three quotes end a string of several lines; up to two more before them belong to it. -/
def closing? (quote : Char) (text : List Char) : Option (List Char × List Char) :=
  match (text.takeWhile (· == quote)).length with
  | 0 | 1 | 2 => none
  | 3 => some ([], text.drop 3)
  | 4 => some ([quote], text.drop 4)
  | _ => some ([quote, quote], text.drop 5)

/-- A backslash at the end of a line skips the break and all blanks and breaks after it. -/
def skipBreaks : Nat → List Char → List Char
  | 0, text => text
  | fuel + 1, text =>
      let rest := skipBlanks text
      match newline? rest with
      | some rest => skipBreaks fuel rest
      | none => rest

/-- The rest of a string of several lines, after its opening quotes. -/
def readMultiline? (quote : Char) : Nat → Reader (List Char)
  | 0, _ => none
  | fuel + 1, text =>
      match closing? quote text, newline? text, text with
      | some closed, _, _ => some closed
      | none, some rest, _ =>
          (readMultiline? quote fuel rest).map fun (chars, rest) => ('\n' :: chars, rest)
      | none, none, [] => none
      | none, none, c :: rest =>
          if c = '\\' ∧ quote = '"' then
            match newline? (skipBlanks rest) with
            | some rest => readMultiline? quote fuel (skipBreaks rest.length rest)
            | none => do
                let (c, rest) ← readEscape? rest
                (readMultiline? quote fuel rest).map fun (chars, rest) => (c :: chars, rest)
          else if isPlain c then
            (readMultiline? quote fuel rest).map fun (chars, rest) => (c :: chars, rest)
          else none

/-- A break right after the opening quotes of several lines is left out. -/
def readString? (text : List Char) : Option (String × List Char) :=
  let made := fun (chars, rest) => (String.ofList chars, rest)
  let fuel := text.length
  match text with
  | '"' :: '"' :: '"' :: rest =>
      (readMultiline? '"' fuel ((newline? rest).getD rest)).map made
  | '\'' :: '\'' :: '\'' :: rest =>
      (readMultiline? '\'' fuel ((newline? rest).getD rest)).map made
  | '"' :: rest => (readBasic? fuel rest).map made
  | '\'' :: rest => (readLiteral? rest).map made
  | _ => none

def isBareKeyChar (c : Char) : Bool :=
  c.isAlphanum || c == '-' || c == '_'

def readSimpleKey? (text : List Char) : Option (String × List Char) :=
  match text with
  | '"' :: rest =>
      (readBasic? text.length rest).map fun (chars, rest) => (String.ofList chars, rest)
  | '\'' :: rest => (readLiteral? rest).map fun (chars, rest) => (String.ofList chars, rest)
  | _ =>
      let chars := text.takeWhile isBareKeyChar
      if chars.isEmpty then none else some (String.ofList chars, text.drop chars.length)

/-- Keys between dots, with blanks around each. -/
def readKeys? : Nat → Reader (List String)
  | 0, _ => none
  | fuel + 1, text => do
      let (key, rest) ← readSimpleKey? (skipBlanks text)
      match skipBlanks rest with
      | '.' :: rest => (readKeys? fuel rest).map fun (keys, rest) => (key :: keys, rest)
      | rest => some ([key], rest)

/-- The deepest nesting and the longest dotted key are less than this. -/
def nestingLimit : Nat := 80

def readKey? (text : List Char) : Option (List String × List Char) := do
  let (keys, rest) ← readKeys? text.length text
  if keys.length < nestingLimit then some (keys, rest) else none

/-- Digits in a base, at least one, with single underscores between them. -/
def readDigits? (isDigit : Char → Bool) : Nat → Reader (List Char)
  | 0, _ => none
  | _ + 1, [] => none
  | fuel + 1, c :: rest =>
      if isDigit c then
        match rest with
        | '_' :: rest =>
            (readDigits? isDigit fuel rest).map fun (digits, rest) => (c :: digits, rest)
        | next :: _ =>
            if isDigit next then
              (readDigits? isDigit fuel rest).map fun (digits, rest) => (c :: digits, rest)
            else some ([c], rest)
        | [] => some ([c], [])
      else none

def readSign : List Char → Option Bool × List Char
  | '+' :: rest => (some false, rest)
  | '-' :: rest => (some true, rest)
  | text => (none, text)

/-- A whole number is zero or does not begin with a zero. -/
def readWhole? : Reader (List Char)
  | '0' :: rest => some (['0'], rest)
  | text => readDigits? Decimal.isDigit text.length text

/-- An integer must fit into 64 bits with a sign. -/
def fit? (value : Int) : Option Int :=
  if -9223372036854775808 ≤ value ∧ value < 9223372036854775808 then some value else none

def readBased? (base : Nat) (text : List Char) : Option (Int × List Char) := do
  let isDigit c := match Hexadecimal.digitValue? c with
    | some digit => digit < base
    | none => false
  let (digits, rest) ← readDigits? isDigit text.length text
  let value := digits.foldl (fun total c => base * total + (Hexadecimal.digitValue? c).getD 0) 0
  some ((← fit? value), rest)

def readInteger? : Reader Int
  | '0' :: 'x' :: rest => readBased? 16 rest
  | '0' :: 'o' :: rest => readBased? 8 rest
  | '0' :: 'b' :: rest => readBased? 2 rest
  | text => do
      let (sign, rest) := readSign text
      let (digits, rest) ← readWhole? rest
      let size : Int := Decimal.value digits
      some ((← fit? (if sign = some true then -size else size)), rest)

def readFraction? : Reader (List Char)
  | '.' :: rest => readDigits? Decimal.isDigit rest.length rest
  | _ => none

def readExponent? : Reader Int
  | c :: rest => do
      if c != 'e' && c != 'E' then none
      let (sign, rest) := readSign rest
      let (digits, rest) ← readDigits? Decimal.isDigit rest.length rest
      let power : Int := Decimal.value digits
      some (if sign = some true then -power else power, rest)
  | [] => none

/-- Whether digits scaled by a power of ten have a nearest finite number.  Powers beyond
what the count of digits can balance are told apart without computing them. -/
def isFinite (digits : List Char) (power : Int) : Bool :=
  let size := Decimal.value digits
  if size = 0 then true
  else
    let place := ((Decimal.digits size).length : Int) + power
    if place > 310 then false
    else if place < 300 then true
    else if power < 0 then (Binary64.ofQuotient? false size (Nat.pow 10 (-power).toNat)).isSome
    else (Binary64.ofQuotient? false (size * Nat.pow 10 power.toNat) 1).isSome

/-- A number with a fraction, an exponent or both.  One too large is refused unless it is
negative; the value itself is never asked for. -/
def readFloat? (text : List Char) : Option (Unit × List Char) := do
  let (sign, rest) := readSign text
  let (whole, rest) ← readWhole? rest
  let (digits, places, power, rest) ← match readFraction? rest with
    | some (fraction, rest) =>
        match readExponent? rest with
        | some (power, rest) => some (whole ++ fraction, fraction.length, power, rest)
        | none => some (whole ++ fraction, fraction.length, 0, rest)
    | none => do
        let (power, rest) ← readExponent? rest
        some (whole, 0, power, rest)
  if sign = some true || isFinite digits (power - (places : Int)) then some ((), rest) else none

/-- `inf` or `nan`, with or without a sign. -/
def readSpecial? (text : List Char) : Option (Unit × List Char) := do
  let (_, rest) := readSign text
  let rest ← (dropPrefix? "inf".toList rest).or (dropPrefix? "nan".toList rest)
  some ((), rest)

/-- A number of exactly so many digits within bounds. -/
def readField? (width least most : Nat) : Reader Nat := fun text =>
  let digits := (text.take width).takeWhile Decimal.isDigit
  let value := Decimal.value digits
  if digits.length = width ∧ least ≤ value ∧ value ≤ most then some (value, text.drop width)
  else none

def readMark? (isMark : Char → Bool) : List Char → Option (List Char)
  | c :: rest => if isMark c then some rest else none
  | [] => none

def readDate? (text : List Char) : Option (List Char) := do
  let (year, rest) ← readField? 4 0 9999 text
  let (month, rest) ← readField? 2 1 12 (← readMark? (· == '-') rest)
  let (_, rest) ← readField? 2 1 (Date.daysInMonth year month) (← readMark? (· == '-') rest)
  some rest

def readTime? (text : List Char) : Option (List Char) := do
  let (_, rest) ← readField? 2 0 23 text
  let (_, rest) ← readField? 2 0 59 (← readMark? (· == ':') rest)
  let (_, rest) ← readField? 2 0 60 (← readMark? (· == ':') rest)
  match rest with
  | '.' :: digits =>
      let fraction := digits.takeWhile Decimal.isDigit
      if fraction.isEmpty then some rest else some (digits.drop fraction.length)
  | rest => some rest

def readOffset? (text : List Char) : Option (List Char) :=
  match text with
  | 'Z' :: rest | 'z' :: rest => some rest
  | _ => do
      let rest ← readMark? (fun c => c == '+' || c == '-') text
      let (_, rest) ← readField? 2 0 23 rest
      let (_, rest) ← readField? 2 0 59 (← readMark? (· == ':') rest)
      some rest

/-- A date, a time, or both with or without an offset.  Only their form matters. -/
def readDateTime? (text : List Char) : Option (Unit × List Char) :=
  match readDate? text with
  | some rest =>
      match (readMark? (fun c => c == 'T' || c == 't' || c == ' ') rest).bind readTime? with
      | some rest => some ((), (readOffset? rest).getD rest)
      | none => some ((), rest)
  | none => (readTime? text).map fun rest => ((), rest)

end Curfew.Toml
