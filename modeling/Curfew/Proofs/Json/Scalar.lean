import Curfew.Json.Printer
import Curfew.Json.Value

namespace Curfew

/-! Strings and integers are read as they are written. -/

namespace Decimal

theorem digits_eq_cons (n : Nat) :
    ∃ first rest, digits n = first :: rest ∧ isDigit first = true ∧ (first = '0' → n = 0) := by
  induction n using digits.induct with
  | case1 n small =>
      have written : digits n = [digitChar n] := by rw [digits, if_pos small]
      refine ⟨digitChar n, [], written, isDigit_digitChar small, fun zero => ?_⟩
      have read := digitValue?_digitChar small
      rw [zero] at read
      exact (Option.some.inj read).symm
  | case2 n large ih =>
      obtain ⟨first, rest, same, digit, positive⟩ := ih
      have written : digits n = first :: (rest ++ [digitChar (n % 10)]) := by
        rw [digits, if_neg large, same]
        rfl
      refine ⟨first, rest ++ [digitChar (n % 10)], written, digit, fun zero => ?_⟩
      have none := positive zero
      omega

end Decimal

namespace Hexadecimal

theorem padded_byte {n : Nat} (small : n < 256) :
    padded 4 n = ['0', '0', digitChar (n / 16), digitChar (n % 16)] := by
  by_cases single : n < 16
  · have high : n / 16 = 0 := by omega
    have low : n % 16 = n := by omega
    have zero : digitChar 0 = '0' := by decide
    simp [padded, digits, single, high, low, zero]
  · have high : n / 16 < 16 := by omega
    rw [padded, digits, if_neg single, digits, if_pos high]
    rfl

end Hexadecimal

namespace Json

theorem scanString?_char {c : Char} (quote : c ≠ '"') (slash : c ≠ '\\')
    (printable : ¬ c.toNat < 0x20) (rest : List Char) :
    scanString? (c :: rest) =
      (scanString? rest).map fun found => (.char c :: found.1, found.2) := by
  rw [scanString?]
  · simp [slash, printable]
  · simpa using quote
  · simp [slash]
  · simp [slash]

theorem scanString?_control {n : Nat} (small : n < 256) (rest : List Char) :
    scanString? (['\\', 'u'] ++ Hexadecimal.padded 4 n ++ rest) =
      (scanString? rest).map fun found => (.unit n :: found.1, found.2) := by
  have zero : Hexadecimal.digitValue? '0' = some 0 := by decide
  have high : Hexadecimal.digitValue? (Hexadecimal.digitChar (n / 16)) = some (n / 16) :=
    Hexadecimal.digitValue?_digitChar (by omega)
  have low : Hexadecimal.digitValue? (Hexadecimal.digitChar (n % 16)) = some (n % 16) :=
    Hexadecimal.digitValue?_digitChar (by omega)
  have code : 4096 * 0 + 256 * 0 + 16 * (n / 16) + n % 16 = n := by omega
  rw [Hexadecimal.padded_byte small]
  simp only [List.cons_append, List.nil_append, scanString?, zero, high, low, bind, Option.bind,
    code]
  cases scanString? rest <;> rfl

theorem charsOf?_unit {code : Nat} (low : code < 0xD800) (rest : StringLiteral) :
    charsOf? (.unit code :: rest) = (charsOf? rest).map (Char.ofNat code :: ·) := by
  cases rest with
  | nil =>
      have noSurrogate : ¬ (0xD800 ≤ code ∧ code ≤ 0xDFFF) := by omega
      simp [charsOf?, noSurrogate]
  | cons piece rest =>
      cases piece with
      | char c =>
          have noSurrogate : ¬ (0xD800 ≤ code ∧ code ≤ 0xDFFF) := by omega
          simp [charsOf?, noSurrogate]
      | unit other => rw [charsOf?, if_neg (by omega), if_neg (by omega)]

theorem scanString?_escaped {letter c : Char} (known : escaped? letter = some c)
    (rest : List Char) :
    scanString? ('\\' :: letter :: rest) =
      (scanString? rest).map fun found => (.char c :: found.1, found.2) := by
  have noUnit : letter ≠ 'u' := by
    rintro rfl
    contradiction
  rw [scanString?]
  · simp only [known, bind, Option.bind]
    cases scanString? rest <;> rfl
  · simp [noUnit]

theorem escapeChar_cases (c : Char) :
    (∃ letter, escapeChar c = ['\\', letter] ∧ escaped? letter = some c) ∨
      (c.toNat < 0x20 ∧ escapeChar c = ['\\', 'u'] ++ Hexadecimal.padded 4 c.toNat) ∨
      (c ≠ '"' ∧ c ≠ '\\' ∧ ¬ c.toNat < 0x20 ∧ escapeChar c = [c]) := by
  unfold escapeChar
  split
  case h_8 quote slash _ _ _ _ _ =>
    split
    · rename_i control
      exact .inr (.inl ⟨control, rfl⟩)
    · rename_i printable
      exact .inr (.inr ⟨quote, slash, printable, rfl⟩)
  all_goals exact .inl ⟨_, rfl, rfl⟩

theorem escape_read (c : Char) :
    ∃ piece, (∀ rest, scanString? (escapeChar c ++ rest) =
        (scanString? rest).map fun found => (piece :: found.1, found.2)) ∧
      ∀ rest, charsOf? (piece :: rest) = (charsOf? rest).map (c :: ·) := by
  rcases escapeChar_cases c with ⟨letter, written, known⟩ | ⟨control, written⟩ |
    ⟨quote, slash, printable, written⟩
  · rw [written]
    exact ⟨.char c, scanString?_escaped known, fun _ => rfl⟩
  · rw [written]
    refine ⟨.unit c.toNat, scanString?_control (by omega), fun rest => ?_⟩
    rw [charsOf?_unit (by omega), Char.ofNat_toNat]
  · rw [written]
    exact ⟨.char c, scanString?_char quote slash printable, fun _ => rfl⟩

theorem string_read (text : List Char) :
    ∃ literal, (∀ rest, scanString? (text.flatMap escapeChar ++ '"' :: rest) =
        some (literal, rest)) ∧ charsOf? literal = some text := by
  induction text with
  | nil => exact ⟨[], fun rest => by simp [scanString?], rfl⟩
  | cons c text ih =>
      obtain ⟨literal, scanned, meant⟩ := ih
      obtain ⟨piece, first, char⟩ := escape_read c
      refine ⟨piece :: literal, fun rest => ?_, ?_⟩
      · rw [List.flatMap_cons, List.append_assoc, first, scanned]
        rfl
      · rw [char, meant]
        rfl

theorem scanToken?_digit {c : Char} {rest : List Char} (digit : Decimal.isDigit c = true) :
    scanToken? (c :: rest) =
      (scanNumber? false (c :: rest)).map fun (literal, rest) => (.number literal, rest) := by
  unfold scanToken?
  split <;> first | rfl | (rename_i same; cases same; contradiction)

/-- What ends a number: the end of an item, of an array or of an object, or a blank. -/
def endMarks : List Char := [',', ']', '\x7d', ' ', '\n', '\r', '\t']

/-- The text ends here, or one of the marks follows. -/
def Ends (rest : List Char) : Prop :=
  ∀ c ∈ rest.head?, c ∈ endMarks

variable {rest : List Char}

theorem Ends.noDigit (ends : Ends rest) : ∀ c ∈ rest.head?, Decimal.isDigit c = false := by
  have all : endMarks.all (fun c => !Decimal.isDigit c) = true := by decide
  intro c head
  simpa using List.all_eq_true.mp all c (ends c head)

theorem Ends.cases (ends : Ends rest) :
    rest = [] ∨ ∃ c more, rest = c :: more ∧ c ≠ '.' ∧ c ≠ 'e' ∧ c ≠ 'E' := by
  have all : ∀ c ∈ endMarks, c ≠ '.' ∧ c ≠ 'e' ∧ c ≠ 'E' := by simp [endMarks]
  cases rest with
  | nil => exact .inl rfl
  | cons c more => exact .inr ⟨c, more, rfl, all c (ends c rfl)⟩

theorem scanDigits?_append {text : List Char} (nonempty : text ≠ [])
    (digits : ∀ c ∈ text, Decimal.isDigit c = true) (ends : Ends rest) :
    scanDigits? (text ++ rest) = some (text, rest) := by
  have noDigit : rest.takeWhile Decimal.isDigit = [] ∧ rest.dropWhile Decimal.isDigit = rest := by
    cases rest with
    | nil => exact ⟨rfl, rfl⟩
    | cons c rest => simp [ends.noDigit c rfl]
  simp [scanDigits?, scanDigits, List.takeWhile_append_of_pos digits,
    List.dropWhile_append_of_pos digits, noDigit, nonempty]

theorem scanWhole?_digits (n : Nat) (ends : Ends rest) :
    scanWhole? (Decimal.digits n ++ rest) = some (Decimal.digits n, rest) := by
  have all := List.all_eq_true.mp (Decimal.all_isDigit_digits n)
  have scanned := scanDigits?_append (Decimal.digits_ne_nil n) all ends
  obtain ⟨first, more, same, digit, zero⟩ := Decimal.digits_eq_cons n
  by_cases isZero : first = '0'
  · have none : n = 0 := zero isZero
    subst none
    have single : Decimal.digits 0 = ['0'] := by rw [Decimal.digits]; rfl
    rw [single]
    rfl
  · rw [same, List.cons_append] at scanned ⊢
    rw [scanWhole?, scanned]
    simpa using isZero

theorem scanNumber?_digits (negative : Bool) (n : Nat) (ends : Ends rest) :
    scanNumber? negative (Decimal.digits n ++ rest) =
      some (⟨negative, Decimal.digits n, none, none⟩, rest) := by
  have fraction : scanFraction? rest = some (none, rest) := by
    rcases ends.cases with rfl | ⟨c, more, rfl, noPoint, _⟩
    · rfl
    · simp [scanFraction?, noPoint]
  have exponent : scanExponent? rest = some (none, rest) := by
    rcases ends.cases with rfl | ⟨c, more, rfl, _, noExponent⟩
    · rfl
    · simp [scanExponent?, noExponent]
  simp [scanNumber?, scanWhole?_digits n ends, fraction, exponent]

theorem integer_read {n : Int} (fits : -9223372036854775808 ≤ n ∧ n < 18446744073709551616) :
    ∃ literal, (∀ rest, Ends rest →
        scanToken? (Decimal.intDigits n ++ rest) = some (.number literal, rest)) ∧
      numberOf? literal = some (.integer n) := by
  cases n with
  | ofNat n =>
      refine ⟨⟨false, Decimal.digits n, none, none⟩, fun rest ends => ?_, ?_⟩
      · have scanned := scanNumber?_digits false n ends
        obtain ⟨first, more, same, digit, _⟩ := Decimal.digits_eq_cons n
        rw [Decimal.intDigits]
        rw [same, List.cons_append] at scanned ⊢
        rw [scanToken?_digit digit, scanned]
        rfl
      · have small : n < 18446744073709551616 := Int.ofNat_lt.mp fits.2
        have size := Decimal.value_digits n
        rw [numberOf?, size, if_pos ⟨rfl, rfl, small⟩]
        rfl
  | negSucc n =>
      refine ⟨⟨true, Decimal.digits (n + 1), none, none⟩, fun rest ends => ?_, ?_⟩
      · rw [Decimal.intDigits, List.cons_append, scanToken?, scanNumber?_digits true _ ends]
        rfl
      · have small : n + 1 ≤ 9223372036854775808 := by
          have lowest := fits.1
          rw [Int.negSucc_eq] at lowest
          omega
        have size := Decimal.value_digits (n + 1)
        rw [numberOf?, size, if_pos ⟨rfl, rfl, Nat.succ_pos n, small⟩]
        rfl

/-- `numberOf?` gives an integer only for a literal without point and exponent, within 64 bits. -/
theorem bounded_of_numberOf? {literal : NumberLiteral} {n : Int}
    (read : numberOf? literal = some (.integer n)) :
    literal.fraction = none ∧ literal.exponent = none ∧
      -9223372036854775808 ≤ n ∧ n < 18446744073709551616 := by
  have noBinary : (binaryOf? literal).map Number.binary ≠ some (.integer n) := by
    cases binaryOf? literal <;> simp
  cases sign : literal.negative with
  | false =>
      simp only [numberOf?, sign, Bool.false_eq_true, if_false] at read
      split at read
      · rename_i fits
        obtain ⟨fraction, exponent, small⟩ := fits
        cases read
        exact ⟨by simpa using fraction, by simpa using exponent, by omega, by omega⟩
      · exact absurd read noBinary
  | true =>
      simp only [numberOf?, sign, if_true] at read
      split at read
      · rename_i fits
        obtain ⟨fraction, exponent, _, small⟩ := fits
        cases read
        exact ⟨by simpa using fraction, by simpa using exponent, by omega, by omega⟩
      · exact absurd read noBinary

theorem intDigits_eq_cons (n : Int) :
    ∃ first later, Decimal.intDigits n = first :: later ∧ isSpace first = false := by
  cases n with
  | negSucc n => exact ⟨'-', _, rfl, rfl⟩
  | ofNat n =>
      obtain ⟨first, later, same, digit, _⟩ := Decimal.digits_eq_cons n
      refine ⟨first, later, same, ?_⟩
      simp only [isSpace, Bool.or_eq_false_iff, beq_eq_false_iff_ne]
      refine ⟨⟨⟨?_, ?_⟩, ?_⟩, ?_⟩ <;>
      · rintro rfl
        contradiction

end Json

end Curfew
