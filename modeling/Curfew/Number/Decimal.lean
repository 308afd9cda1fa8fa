namespace Curfew.Decimal

/-! Natural numbers in decimal. -/

def digitChar (digit : Nat) : Char :=
  Char.ofNat (48 + digit)

def digitValue? (c : Char) : Option Nat :=
  if '0' ≤ c ∧ c ≤ '9' then some (c.toNat - 48) else none

def isDigit (c : Char) : Bool :=
  (digitValue? c).isSome

/-- The digits of a number, without leading zeros. -/
def digits (n : Nat) : List Char :=
  if n < 10 then [digitChar n] else digits (n / 10) ++ [digitChar (n % 10)]

/-- The number written by a run of digits; characters that are no digits count as zero. -/
def value (text : List Char) : Nat :=
  text.foldl (fun total c => 10 * total + (digitValue? c).getD 0) 0

/-- The number written by a text that is nothing but digits, of which there is at least one. -/
def read? (text : List Char) : Option Nat :=
  if text ≠ [] ∧ text.all isDigit then some (value text) else none

/-- At least `width` digits, filled up with zeros on the left. -/
def padded (width n : Nat) : List Char :=
  List.replicate (width - (digits n).length) '0' ++ digits n

def text (n : Nat) : String :=
  String.ofList (digits n)

def intDigits : Int → List Char
  | .ofNat n => digits n
  | .negSucc n => '-' :: digits (n + 1)

def intText (n : Int) : String :=
  String.ofList (intDigits n)

theorem digitValue?_digitChar {digit : Nat} (small : digit < 10) :
    digitValue? (digitChar digit) = some digit := by
  have all : ∀ d : Fin 10, digitValue? (digitChar d) = some d.val := by decide
  exact all ⟨digit, small⟩

theorem isDigit_digitChar {digit : Nat} (small : digit < 10) :
    isDigit (digitChar digit) = true := by
  simp [isDigit, digitValue?_digitChar small]

theorem digits_ne_nil (n : Nat) : digits n ≠ [] := by
  unfold digits
  split <;> simp

theorem all_isDigit_digits (n : Nat) : (digits n).all isDigit = true := by
  induction n using digits.induct with
  | case1 n small => simp [digits, small, isDigit_digitChar small]
  | case2 n large ih =>
      rw [digits, if_neg large]
      simp [ih, isDigit_digitChar (Nat.mod_lt n (by decide : 10 > 0))]

theorem value_append (before : List Char) (c : Char) :
    value (before ++ [c]) = 10 * value before + (digitValue? c).getD 0 := by
  simp [value]

theorem value_digits (n : Nat) : value (digits n) = n := by
  induction n using digits.induct with
  | case1 n small => simp [digits, small, value, digitValue?_digitChar small]
  | case2 n large ih =>
      rw [digits, if_neg large, value_append, ih,
        digitValue?_digitChar (Nat.mod_lt n (by decide : 10 > 0))]
      simp only [Option.getD_some]
      omega

end Curfew.Decimal
