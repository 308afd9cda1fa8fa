import Curfew.Time.Duration
import Mathlib.Algebra.Group.Nat.Defs

namespace Curfew

/-! Spans that are made, added and taken away.  Every result is the exact one, or the bound that
the exact one lies beyond, and words of 64 bits hold every value on the way. -/

namespace Duration

variable {unit : TimeUnit} {span left right more less : Duration} {cause : DurationError}

theorem ofUnits_eq_ok_iff {count : Nat} :
    ofUnits unit count = .ok span ↔ span.milliseconds = count * unit.factor := by
  constructor
  · intro made
    by_cases fits : count ≤ unit.maximum
    · rw [ofUnits, dif_pos fits] at made
      cases made
      rfl
    · simp [ofUnits, fits] at made
  · intro exact
    have fits : count ≤ unit.maximum :=
      (unit.mul_factor_le_iff count).mp (exact ▸ span.bounded)
    rw [ofUnits, dif_pos fits]
    exact congrArg Except.ok (ext_milliseconds exact.symm)

theorem ofUnits_eq_ok_of_le {count : Nat} (fits : count ≤ unit.maximum) :
    ∃ span, ofUnits unit count = .ok span := by
  rw [ofUnits, dif_pos fits]
  exact ⟨_, rfl⟩

theorem ofUnits_eq_error_iff {count : Nat} :
    ofUnits unit count = .error cause ↔ unit.maximum < count ∧ cause = .tooLarge unit count := by
  unfold ofUnits
  by_cases fits : count ≤ unit.maximum
  · simp [fits, Nat.not_lt.mpr fits]
  · simp [fits, Nat.not_le.mp fits, eq_comm]

theorem exists_ofUnits_iff (unit : TimeUnit) (count : Nat) :
    (∃ span, ofUnits unit count = .ok span) ↔ count * unit.factor ≤ 2 ^ 53 - 1 := by
  constructor
  · intro ⟨span, made⟩
    rw [← ofUnits_eq_ok_iff.mp made]
    exact span.bounded
  · intro bounded
    exact ⟨⟨count * unit.factor, bounded⟩, ofUnits_eq_ok_iff.mpr rfl⟩

theorem ofUnits_eq_error_iff_product {count : Nat} :
    ofUnits unit count = .error cause ↔
      2 ^ 53 - 1 < count * unit.factor ∧ cause = .tooLarge unit count := by
  rw [ofUnits_eq_error_iff, ← Nat.not_le, ← unit.mul_factor_le_iff, Nat.not_le]
  exact Iff.rfl

theorem ofMilliseconds_eq_ok_iff {count : Nat} :
    ofMilliseconds count = .ok span ↔ span.milliseconds = count := by
  rw [ofMilliseconds, ofUnits_eq_ok_iff, TimeUnit.factor, Nat.mul_one]

theorem ofSignedMilliseconds_eq (count : Int) :
    ofSignedMilliseconds count =
      if count < 0 then .error (.negative count) else ofMilliseconds count.toNat := by
  cases count with
  | ofNat count => rfl
  | negSucc count => exact (if_pos (Int.negSucc_lt_zero count)).symm

theorem ofSignedMilliseconds_eq_negative_iff {count negative : Int} :
    ofSignedMilliseconds count = .error (.negative negative) ↔ count < 0 ∧ negative = count := by
  rw [ofSignedMilliseconds_eq]
  split
  · rename_i below
    simp [below, eq_comm]
  · rename_i notBelow
    refine iff_of_false (fun refused => ?_) (fun negative => notBelow negative.1)
    -- a count without a sign is refused for its size
    obtain ⟨_, cause⟩ := ofUnits_eq_error_iff.mp refused
    contradiction

theorem milliseconds_clamped (count : Nat) : (clamped count).milliseconds = min count (2 ^ 53 - 1) :=
  rfl

theorem milliseconds_plusOrLongest (span more : Duration) :
    (span.plusOrLongest more).milliseconds =
      min (span.milliseconds + more.milliseconds) (2 ^ 53 - 1) :=
  rfl

theorem milliseconds_minusOrZero (span less : Duration) :
    ((span.minusOrZero less).milliseconds : Int) =
      max 0 (span.milliseconds - less.milliseconds) := by
  simp only [minusOrZero]
  omega

theorem plusOrLongest_comm (left right : Duration) :
    left.plusOrLongest right = right.plusOrLongest left := by
  rw [plusOrLongest, Nat.add_comm, ← plusOrLongest]

theorem plusOrLongest_assoc (left span right : Duration) :
    (left.plusOrLongest span).plusOrLongest right =
      left.plusOrLongest (span.plusOrLongest right) := by
  apply ext_milliseconds
  simp only [milliseconds_plusOrLongest]
  omega

theorem plusOrLongest_le {span longer more further : Duration}
    (first : span.milliseconds ≤ longer.milliseconds)
    (second : more.milliseconds ≤ further.milliseconds) :
    (span.plusOrLongest more).milliseconds ≤ (longer.plusOrLongest further).milliseconds := by
  simp only [milliseconds_plusOrLongest]
  omega

/-- Two spans are taken away one after the other as their sum is: where the sum is cut off, nothing
is left of any span. -/
theorem minusOrZero_minusOrZero (span less more : Duration) :
    (span.minusOrZero less).minusOrZero more = span.minusOrZero (less.plusOrLongest more) := by
  have bounded := span.bounded
  apply ext_milliseconds
  simp only [minusOrZero, milliseconds_plusOrLongest]
  omega

/-- A product of words of 64 bits, which is none where it does not fit. -/
def wordProduct? (left right : UInt64) : Option UInt64 :=
  if left.toNat * right.toNat < 2 ^ 64 then some (left * right) else none

def wordSum? (left right : UInt64) : Option UInt64 :=
  if left.toNat + right.toNat < 2 ^ 64 then some (left + right) else none

def unitWord (unit : TimeUnit) : UInt64 := .ofNat unit.factor

/-- The check of the count before the product, in words of 64 bits. -/
def ofUnitsWord? (unit : TimeUnit) (count : UInt64) : Option (Except DurationError UInt64) :=
  if 9007199254740991 / unitWord unit < count then some (.error (.tooLarge unit count.toNat))
  else (wordProduct? count (unitWord unit)).map .ok

def ofSignedWord? (count : Int64) : Option (Except DurationError UInt64) :=
  if count < 0 then some (.error (.negative count.toInt))
  else ofUnitsWord? .milliseconds count.toUInt64

def plusWord? (span more : UInt64) : Option UInt64 :=
  (wordSum? span more).map (min 9007199254740991)

def word (span : Duration) : UInt64 := .ofNat span.milliseconds

theorem toNat_word (span : Duration) : span.word.toNat = span.milliseconds := by
  have bounded := span.bounded
  exact UInt64.toNat_ofNat_of_lt' (show span.milliseconds < 2 ^ 64 by omega)

theorem toNat_min (left right : UInt64) : (min left right).toNat = min left.toNat right.toNat := by
  show (if left ≤ right then left else right).toNat = min left.toNat right.toNat
  split
  · rename_i first
    exact (Nat.min_eq_left (UInt64.le_iff_toNat_le.mp first)).symm
  · rename_i last
    rw [UInt64.le_iff_toNat_le] at last
    omega

theorem toNat_unitWord (unit : TimeUnit) : (unitWord unit).toNat = unit.factor := by
  cases unit <;> rfl

theorem ofUnitsWord?_eq (unit : TimeUnit) (count : UInt64) :
    ofUnitsWord? unit count = some ((ofUnits unit count.toNat).map word) := by
  have longest : (9007199254740991 : UInt64).toNat = 9007199254740991 := rfl
  have above : 9007199254740991 / unitWord unit < count ↔ unit.maximum < count.toNat := by
    rw [UInt64.lt_iff_toNat_lt, UInt64.toNat_div, toNat_unitWord, longest, TimeUnit.maximum]
  unfold ofUnitsWord? ofUnits
  by_cases fits : count.toNat ≤ unit.maximum
  · have bounded := (unit.mul_factor_le_iff count.toNat).mpr fits
    have product : count.toNat * (unitWord unit).toNat < 2 ^ 64 := by
      rw [toNat_unitWord]
      omega
    have notAbove : ¬ 9007199254740991 / unitWord unit < count :=
      fun tooMany => Nat.not_lt.mpr fits (above.mp tooMany)
    rw [if_neg notAbove, dif_pos fits, wordProduct?, if_pos product]
    refine congrArg (some ∘ Except.ok) (UInt64.toNat_inj.mp ?_)
    rw [toNat_word, UInt64.toNat_mul, Nat.mod_eq_of_lt product, toNat_unitWord]
  · rw [if_pos (above.mpr (Nat.not_le.mp fits)), dif_neg fits]
    rfl

theorem ofSignedWord?_eq (count : Int64) :
    ofSignedWord? count = some ((ofSignedMilliseconds count.toInt).map word) := by
  have negative : count < 0 ↔ count.toInt < 0 := by
    rw [Int64.lt_iff_toInt_lt, Int64.toInt_zero]
  rw [ofSignedMilliseconds_eq, ofSignedWord?]
  simp only [negative]
  split
  · rfl
  · rename_i notNegative
    have unsigned : count.toUInt64.toNat = count.toInt.toNat := by
      rw [Int64.toNat_toInt, Int64.toNat_toUInt64_of_le]
      rw [Int64.le_iff_toInt_le, Int64.toInt_zero]
      omega
    rw [ofUnitsWord?_eq, unsigned, ofMilliseconds]

theorem plusWord?_word (span more : Duration) :
    plusWord? span.word more.word = some (span.plusOrLongest more).word := by
  have bounded := span.bounded
  have moreBounded := more.bounded
  have fits : span.word.toNat + more.word.toNat < 2 ^ 64 := by
    rw [toNat_word, toNat_word]
    omega
  rw [plusWord?, wordSum?, if_pos fits]
  refine congrArg some (UInt64.toNat_inj.mp ?_)
  have longest : (9007199254740991 : UInt64).toNat = 9007199254740991 := rfl
  rw [toNat_min, UInt64.toNat_add, Nat.mod_eq_of_lt fits, toNat_word, toNat_word, toNat_word,
    longest, milliseconds_plusOrLongest]
  exact Nat.min_comm ..

/-- `ofUnits` accepts a count exactly if the product is not above the longest span, and gives that
product; `ofSignedMilliseconds` refuses exactly the negative counts for their sign.  `plusOrLongest`
is the exact sum up to the longest span, hence commutative, associative and monotone; `minusOrZero`
is the exact difference down to zero, and two of them are one of the sum.  Words of 64 bits hold
every value on the way. -/
theorem exact_or_clamped :
    (∀ (unit : TimeUnit) (count : Nat),
      ((∃ span, ofUnits unit count = .ok span) ↔ count * unit.factor ≤ 2 ^ 53 - 1) ∧
      (∀ span, ofUnits unit count = .ok span ↔ span.milliseconds = count * unit.factor) ∧
      ∀ cause, ofUnits unit count = .error cause ↔
        2 ^ 53 - 1 < count * unit.factor ∧ cause = .tooLarge unit count) ∧
    (∀ count : Int,
      (0 ≤ count → ofSignedMilliseconds count = ofUnits .milliseconds count.toNat) ∧
      ∀ negative, ofSignedMilliseconds count = .error (.negative negative) ↔
        count < 0 ∧ negative = count) ∧
    (∀ count : Nat, (clamped count).milliseconds = min count (2 ^ 53 - 1)) ∧
    (∀ left right : Duration,
      (left.plusOrLongest right).milliseconds =
        min (left.milliseconds + right.milliseconds) (2 ^ 53 - 1) ∧
      left.plusOrLongest right = right.plusOrLongest left ∧
      ((left.minusOrZero right).milliseconds : Int) =
        max 0 (left.milliseconds - right.milliseconds)) ∧
    (∀ span first second : Duration,
      (span.plusOrLongest first).plusOrLongest second =
        span.plusOrLongest (first.plusOrLongest second) ∧
      (span.minusOrZero first).minusOrZero second =
        span.minusOrZero (first.plusOrLongest second)) ∧
    (∀ span longer more further : Duration,
      span.milliseconds ≤ longer.milliseconds → more.milliseconds ≤ further.milliseconds →
        (span.plusOrLongest more).milliseconds ≤ (longer.plusOrLongest further).milliseconds) ∧
    (∀ (unit : TimeUnit) (count : UInt64),
      ofUnitsWord? unit count = some ((ofUnits unit count.toNat).map word)) ∧
    (∀ count : Int64, ofSignedWord? count = some ((ofSignedMilliseconds count.toInt).map word)) ∧
    ∀ left right : Duration, left.word.toNat = left.milliseconds ∧
      plusWord? left.word right.word = some (left.plusOrLongest right).word := by
  refine ⟨fun unit count => ?units, fun count => ?signed, milliseconds_clamped,
    fun left right => ?pair, fun span first second => ?parts, fun _ _ _ _ => plusOrLongest_le,
    ofUnitsWord?_eq, ofSignedWord?_eq, fun left right => ⟨left.toNat_word, plusWord?_word ..⟩⟩
  case units =>
    exact ⟨exists_ofUnits_iff unit count, fun _ => ofUnits_eq_ok_iff,
      fun _ => ofUnits_eq_error_iff_product⟩
  case signed =>
    refine ⟨fun notNegative => ?_, fun _ => ofSignedMilliseconds_eq_negative_iff⟩
    rw [ofSignedMilliseconds_eq, if_neg (Int.not_lt.mpr notNegative), ofMilliseconds]
  case pair =>
    exact ⟨milliseconds_plusOrLongest left right, plusOrLongest_comm left right,
      milliseconds_minusOrZero left right⟩
  case parts =>
    exact ⟨plusOrLongest_assoc span first second, minusOrZero_minusOrZero span first second⟩

end Duration

end Curfew
