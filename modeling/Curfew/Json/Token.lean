import Curfew.Number.Decimal
import Curfew.Number.Hexadecimal

namespace Curfew.Json

/-! The tokens of a JSON text.  Numbers and strings are kept as they are written: what
they stand for is asked of them later, and not of a value that is skipped. -/

/-- `negative` and `negativeExponent` stand for a minus sign. -/
structure NumberLiteral where
  negative : Bool
  whole : List Char
  fraction : Option (List Char)
  exponent : Option (Bool × List Char)
deriving DecidableEq, Repr

/-- A character of a string, or a `\u` escape, which stands for one UTF-16 unit. -/
inductive StringPiece where
  | char (c : Char)
  | unit (code : Nat)
deriving DecidableEq, Repr

abbrev StringLiteral := List StringPiece

inductive Token where
  | openBrace
  | closeBrace
  | openBracket
  | closeBracket
  | colon
  | comma
  | null
  | bool (value : Bool)
  | number (literal : NumberLiteral)
  | string (literal : StringLiteral)
deriving DecidableEq, Repr

def isSpace (c : Char) : Bool :=
  c == ' ' || c == '\n' || c == '\r' || c == '\t'

/-- The character that a backslash and a letter stand for. -/
def escaped? : Char → Option Char
  | '"' => some '"'
  | '\\' => some '\\'
  | '/' => some '/'
  | 'b' => some '\x08'
  | 'f' => some '\x0c'
  | 'n' => some '\n'
  | 'r' => some '\r'
  | 't' => some '\t'
  | _ => none

/-- The rest of a string after its opening quote, and what follows it. -/
def scanString? : List Char → Option (StringLiteral × List Char)
  | [] => none
  | '"' :: rest => some ([], rest)
  | '\\' :: 'u' :: a :: b :: c :: d :: rest => do
      let a ← Hexadecimal.digitValue? a
      let b ← Hexadecimal.digitValue? b
      let c ← Hexadecimal.digitValue? c
      let d ← Hexadecimal.digitValue? d
      let (pieces, rest) ← scanString? rest
      some (.unit (4096 * a + 256 * b + 16 * c + d) :: pieces, rest)
  | '\\' :: c :: rest => do
      let c ← escaped? c
      let (pieces, rest) ← scanString? rest
      some (.char c :: pieces, rest)
  | c :: rest =>
      if c = '\\' ∨ c.toNat < 0x20 then none
      else (scanString? rest).map fun (pieces, rest) => (.char c :: pieces, rest)

def scanDigits (text : List Char) : List Char × List Char :=
  (text.takeWhile Decimal.isDigit, text.dropWhile Decimal.isDigit)

/-- At least one digit. -/
def scanDigits? (text : List Char) : Option (List Char × List Char) :=
  let (digits, rest) := scanDigits text
  if digits.isEmpty then none else some (digits, rest)

/-- A whole part does not begin with a zero unless it is zero. -/
def scanWhole? : List Char → Option (List Char × List Char)
  | '0' :: rest => some (['0'], rest)
  | text => scanDigits? text

def scanFraction? : List Char → Option (Option (List Char) × List Char)
  | '.' :: rest => (scanDigits? rest).map fun (digits, rest) => (some digits, rest)
  | text => some (none, text)

def scanExponentDigits? (negative : Bool) (text : List Char) :
    Option (Option (Bool × List Char) × List Char) :=
  (scanDigits? text).map fun (digits, rest) => (some (negative, digits), rest)

def scanExponent? : List Char → Option (Option (Bool × List Char) × List Char)
  | c :: rest =>
      if c = 'e' ∨ c = 'E' then
        match rest with
        | '+' :: rest => scanExponentDigits? false rest
        | '-' :: rest => scanExponentDigits? true rest
        | rest => scanExponentDigits? false rest
      else some (none, c :: rest)
  | [] => some (none, [])

/-- A number without its sign, and what follows it. -/
def scanNumber? (negative : Bool) (text : List Char) :
    Option (NumberLiteral × List Char) := do
  let (whole, rest) ← scanWhole? text
  let (fraction, rest) ← scanFraction? rest
  let (exponent, rest) ← scanExponent? rest
  some (⟨negative, whole, fraction, exponent⟩, rest)

/-- The first token of a text that begins with one, and what follows it. -/
def scanToken? : List Char → Option (Token × List Char)
  | '\x7b' :: rest => some (.openBrace, rest)
  | '\x7d' :: rest => some (.closeBrace, rest)
  | '[' :: rest => some (.openBracket, rest)
  | ']' :: rest => some (.closeBracket, rest)
  | ':' :: rest => some (.colon, rest)
  | ',' :: rest => some (.comma, rest)
  | 'n' :: 'u' :: 'l' :: 'l' :: rest => some (.null, rest)
  | 't' :: 'r' :: 'u' :: 'e' :: rest => some (.bool true, rest)
  | 'f' :: 'a' :: 'l' :: 's' :: 'e' :: rest => some (.bool false, rest)
  | '"' :: rest => (scanString? rest).map fun (literal, rest) => (.string literal, rest)
  | '-' :: rest => (scanNumber? true rest).map fun (literal, rest) => (.number literal, rest)
  | text => (scanNumber? false text).map fun (literal, rest) => (.number literal, rest)

/-- Every token uses up at least one character, so `fuel` characters are enough. -/
def scanAll? : Nat → List Char → Option (List Token)
  | _, [] => some []
  | 0, _ :: _ => none
  | fuel + 1, c :: rest =>
      if isSpace c then scanAll? fuel rest
      else do
        let (token, rest) ← scanToken? (c :: rest)
        (scanAll? fuel rest).map (token :: ·)

/-- The tokens of a whole text. -/
def tokens? (text : List Char) : Option (List Token) :=
  scanAll? text.length text

end Curfew.Json
