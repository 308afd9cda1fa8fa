import Curfew.Number.Decimal

namespace Curfew

/-! Finite binary floating-point numbers of 64 bits, as a sign and `significand * 2 ^
exponent`.  Results are rounded to the nearest number, a tie to the even significand,
and there is no result where the nearest number would be infinite. -/

structure Binary64 where
  negative : Bool
  significand : Nat
  exponent : Int
deriving DecidableEq, Repr

namespace Binary64

def zero (negative : Bool) : Binary64 := ⟨negative, 0, -1074⟩

def isZero (number : Binary64) : Bool := number.significand == 0

/-- The quotient to the nearest whole number, a tie to the even one. -/
def roundQuotient (numerator denominator : Nat) : Nat :=
  let quotient := numerator / denominator
  let twice := 2 * (numerator % denominator)
  if twice < denominator ∨ (twice = denominator ∧ quotient % 2 = 0) then quotient
  else quotient + 1

/-- `numerator / denominator / 2 ^ exponent` as a quotient of naturals. -/
def scaled (numerator denominator : Nat) (exponent : Int) : Nat × Nat :=
  if exponent < 0 then (numerator * Nat.pow 2 (-exponent).toNat, denominator)
  else (numerator, denominator * Nat.pow 2 exponent.toNat)

/-- The number nearest to a quotient. -/
def ofQuotient? (negative : Bool) (numerator denominator : Nat) : Option Binary64 :=
  if numerator = 0 then some (zero negative)
  else
    let guess := (numerator.log2 : Int) - (denominator.log2 : Int) - 52
    let (upper, lower) := scaled numerator denominator guess
    let fitted := if upper / lower < Nat.pow 2 52 then guess - 1 else guess
    let exponent := max fitted (-1074)
    let (upper, lower) := scaled numerator denominator exponent
    let significand := roundQuotient upper lower
    let (significand, exponent) :=
      if significand = Nat.pow 2 53 then (Nat.pow 2 52, exponent + 1) else (significand, exponent)
    if exponent > 971 then none else some ⟨negative, significand, exponent⟩

/-- The size of a number as a quotient of naturals. -/
def quotient (number : Binary64) : Nat × Nat :=
  if number.exponent < 0 then (number.significand, Nat.pow 2 (-number.exponent).toNat)
  else (number.significand * Nat.pow 2 number.exponent.toNat, 1)

def times? (left right : Binary64) : Option Binary64 :=
  let (upper, lower) := left.quotient
  let (upper', lower') := right.quotient
  ofQuotient? (left.negative != right.negative) (upper * upper') (lower * lower')

def over? (left right : Binary64) : Option Binary64 :=
  let (upper, lower) := left.quotient
  let (upper', lower') := right.quotient
  ofQuotient? (left.negative != right.negative) (upper * lower') (lower * upper')

/-- The number nearest to a power of ten. -/
def powerOfTen (exponent : Nat) : Binary64 :=
  (ofQuotient? false (Nat.pow 10 exponent) 1).getD (zero false)

/-- Divides so many times, rounding each time; zero stays zero. -/
def overRepeatedly? (divisor : Binary64) : Nat → Binary64 → Option Binary64
  | 0, number => some number
  | times + 1, number =>
      if number.isZero then some number
      else (number.over? divisor).bind (overRepeatedly? divisor times)

/-- Divides by a power of ten, by at most `10 ^ 308` at a time. -/
def overPowerOfTen? (number : Binary64) (exponent : Nat) : Option Binary64 := do
  let times := (exponent - 1) / 308
  let rest ← overRepeatedly? (powerOfTen 308) times number
  if rest.isZero then some rest else rest.over? (powerOfTen (exponent - 308 * times))

/-- The number for digits and a power of ten that scales them, by one multiplication
or by divisions, each rounded.  There is none when the power is above `10 ^ 308` and the
digits are not all zero, or when the product is too large. -/
def ofDigits? (negative : Bool) (digits : Nat) (exponent : Int) : Option Binary64 := do
  let number ← ofQuotient? negative digits 1
  if exponent < 0 then number.overPowerOfTen? (-exponent).toNat
  else if exponent ≤ 308 then number.times? (powerOfTen exponent.toNat)
  else if number.isZero then some number
  else none

/-- Whether a quotient is among the reals that round to a number.  The ends of that
interval belong to it when the significand is even. -/
def rounds (number : Binary64) (numerator denominator : Nat) : Bool :=
  -- All bounds are counted in quarters of a unit of the significand.
  let (upper, lower) := scaled (4 * numerator) denominator number.exponent
  let quarter := 4 * number.significand
  let below := if number.significand = Nat.pow 2 52 ∧ number.exponent > -1074 then quarter - 1
    else quarter - 2
  let above := quarter + 2
  if number.significand % 2 = 0 then below * lower ≤ upper && upper ≤ above * lower
  else below * lower < upper && upper < above * lower

/-- How many digits the whole part has; zero or less when it is zero, for every zero
after the point. -/
def decimalPlace (numerator denominator : Nat) : Int :=
  if numerator ≥ denominator then (Decimal.digits (numerator / denominator)).length
  else
    let inverse := (denominator + numerator - 1) / numerator
    1 - ((Decimal.digits (inverse - 1)).length : Int)

/-- A quotient as a whole number of units of a power of ten. -/
def inUnits (numerator denominator : Nat) (unit : Int) : Nat × Nat :=
  if unit < 0 then (numerator * Nat.pow 10 (-unit).toNat, denominator)
  else (numerator, denominator * Nat.pow 10 unit.toNat)

/-- The multiple of a power of ten, if any, that lies next to the number and rounds to
it; the nearer one if both neighbours do, and the even one if they are equally near. -/
def onGrid? (number : Binary64) (unit : Int) : Option Nat :=
  let (numerator, denominator) := number.quotient
  let (upper, lower) := inUnits numerator denominator unit
  let below := upper / lower
  let hits (count : Nat) : Bool :=
    let (n, d) := if unit < 0 then (count, Nat.pow 10 (-unit).toNat)
      else (count * Nat.pow 10 unit.toNat, 1)
    number.rounds n d
  let nearest := roundQuotient upper lower
  if hits nearest then some nearest
  else if hits below then some below
  else if hits (below + 1) then some (below + 1)
  else none

/-- The fewest digits that round to the number, and the power of ten of the last one. -/
def shortest (number : Binary64) : Nat × Int :=
  let (numerator, denominator) := number.quotient
  let place := decimalPlace numerator denominator
  let found := (List.range 17).findSome? fun (extra : Nat) =>
    let unit := place - 1 - (extra : Int)
    -- Next to a power of ten the neighbour on the first grid can be that power.
    (number.onGrid? unit).map fun digits => if digits = 10 then (1, unit + 1) else (digits, unit)
  found.getD (0, 0)

/-- A point is always written; the exponent is written from `1e+16` on and below `1e-5`. -/
def text (number : Binary64) : String :=
  let sign := if number.negative then "-" else ""
  if number.isZero then sign ++ "0.0"
  else
    let (count, unit) := number.shortest
    let digits := Decimal.digits count
    let point := (digits.length : Int) + unit
    let body : List Char :=
      if 0 < point ∧ point ≤ 16 then
        if unit ≥ 0 then digits ++ List.replicate unit.toNat '0' ++ ['.', '0']
        else digits.take point.toNat ++ '.' :: digits.drop point.toNat
      else if -5 < point ∧ point ≤ 0 then
        ['0', '.'] ++ List.replicate (-point).toNat '0' ++ digits
      else
        let fraction := if digits.length = 1 then [] else '.' :: digits.drop 1
        let power := point - 1
        let mark := if power < 0 then '-' else '+'
        digits.take 1 ++ fraction ++ 'e' :: mark :: Decimal.digits power.natAbs
    sign ++ String.ofList body

end Binary64

end Curfew
