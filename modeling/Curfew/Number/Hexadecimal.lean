namespace Curfew.Hexadecimal

/-! Natural numbers to base sixteen. -/

def digitChar (digit : Nat) : Char :=
  if digit < 10 then Char.ofNat (48 + digit) else Char.ofNat (87 + digit)

/-- Letters of either case stand for the digits from ten on. -/
def digitValue? (c : Char) : Option Nat :=
  if '0' ≤ c ∧ c ≤ '9' then some (c.toNat - 48)
  else if 'a' ≤ c ∧ c ≤ 'f' then some (c.toNat - 87)
  else if 'A' ≤ c ∧ c ≤ 'F' then some (c.toNat - 55)
  else none

/-- The byte of two digits. -/
def byte? (high low : Char) : Option UInt8 := do
  let high ← digitValue? high
  let low ← digitValue? low
  some (16 * high + low).toUInt8

/-- The bytes that are written one after the other, up to the first that is none. -/
def bytes : List Char → List UInt8
  | high :: low :: rest =>
      match byte? high low with
      | some byte => byte :: bytes rest
      | none => []
  | _ => []

/-- The digits of a number, without leading zeros. -/
def digits (n : Nat) : List Char :=
  if n < 16 then [digitChar n] else digits (n / 16) ++ [digitChar (n % 16)]

/-- At least `width` digits, filled up with zeros on the left. -/
def padded (width n : Nat) : List Char :=
  List.replicate (width - (digits n).length) '0' ++ digits n

theorem digitValue?_digitChar {digit : Nat} (small : digit < 16) :
    digitValue? (digitChar digit) = some digit := by
  have all : ∀ d : Fin 16, digitValue? (digitChar d) = some d.val := by decide
  exact all ⟨digit, small⟩

end Curfew.Hexadecimal
