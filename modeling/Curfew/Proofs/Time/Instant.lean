import Curfew.Proofs.Time.Duration
import Curfew.Time.Instant
import Mathlib.Algebra.Group.Int.Defs
import Mathlib.Algebra.Group.Nat.Defs

namespace Curfew.Instant

/-! Sums and differences of instants.  The range of instants is almost twice as wide as the
longest span, and both have room in words of 64 bits. -/

variable {instant other : Instant} {span : Duration}

theorem ext_milliseconds (same : instant.milliseconds = other.milliseconds) : instant = other := by
  cases instant; cases other; cases same; rfl

/-- `ofMilliseconds` gives the instant back from its count.  It does not for a leap second at the
end of the calendar. -/
def Readable (instant : Instant) : Prop :=
  instant.milliseconds ≤ latest

instance (instant : Instant) : Decidable instant.Readable :=
  inferInstanceAs (Decidable (_ ≤ _))

theorem ofMilliseconds_eq_ok_iff {count : Int} :
    ofMilliseconds count = .ok instant ↔ instant.milliseconds = count ∧ instant.Readable := by
  have early := instant.notBefore
  unfold ofMilliseconds Readable latest
  constructor
  · intro accepted
    split at accepted
    · rename_i inRange
      cases accepted
      exact ⟨rfl, inRange.2⟩
    · contradiction
  · rintro ⟨rfl, inRange⟩
    rw [dif_pos ⟨early, inRange⟩]

theorem toOption_ofMilliseconds_eq_some_iff {count : Int} :
    (ofMilliseconds count).toOption = some instant ↔
      instant.milliseconds = count ∧ instant.Readable := by
  rw [← ofMilliseconds_eq_ok_iff]
  cases ofMilliseconds count <;> simp [Except.toOption]

/-- The counts that `ofMilliseconds` accepts. -/
def IsTimestamp (count : Int) : Prop :=
  earliest ≤ count ∧ count ≤ latest

theorem isSome_ofMilliseconds_iff (count : Int) :
    (ofMilliseconds count).toOption.isSome ↔ IsTimestamp count := by
  rw [Option.isSome_iff_exists]
  constructor
  · intro ⟨instant, read⟩
    obtain ⟨rfl, readable⟩ := toOption_ofMilliseconds_eq_some_iff.mp read
    exact ⟨instant.notBefore, readable⟩
  · intro ⟨early, late⟩
    have past : count ≤ 8210266876799999 + 1000 := Int.le_trans late (by decide)
    exact ⟨⟨count, early, past⟩, toOption_ofMilliseconds_eq_some_iff.mpr ⟨rfl, late⟩⟩

theorem plus?_eq_some_iff :
    instant.plus? span = some other ↔
      other.milliseconds = instant.milliseconds + span.milliseconds ∧ other.Readable :=
  toOption_ofMilliseconds_eq_some_iff

theorem minus?_eq_some_iff :
    instant.minus? span = some other ↔
      other.milliseconds = instant.milliseconds - span.milliseconds ∧ other.Readable :=
  toOption_ofMilliseconds_eq_some_iff

theorem milliseconds_till (instant other : Instant) :
    ((instant.till other).milliseconds : Int) =
      min (max 0 (other.milliseconds - instant.milliseconds)) (2 ^ 53 - 1) := by
  simp only [till, Duration.clamped]
  omega

theorem till_eq_iff :
    instant.till other = span ↔
      (span.milliseconds : Int) =
        min (max 0 (other.milliseconds - instant.milliseconds)) (2 ^ 53 - 1) := by
  rw [← milliseconds_till]
  constructor
  · rintro rfl
    rfl
  · intro same
    exact Duration.ext_milliseconds (Int.ofNat.inj same).symm

theorem till_eq_zero_or (instant other : Instant) :
    instant.till other = .zero ∨ other.till instant = .zero := by
  have none : (Duration.zero.milliseconds : Int) = 0 := rfl
  rcases Int.le_total instant.milliseconds other.milliseconds with first | last
  · refine .inr (till_eq_iff.mpr ?_)
    omega
  · refine .inl (till_eq_iff.mpr ?_)
    omega

theorem till_of_sum (sum : other.milliseconds = instant.milliseconds + span.milliseconds) :
    instant.till other = span := by
  have bounded := span.bounded
  refine till_eq_iff.mpr ?_
  omega

theorem plus?_till (ordered : instant.milliseconds ≤ other.milliseconds)
    (short : other.milliseconds - instant.milliseconds ≤ 2 ^ 53 - 1) (readable : other.Readable) :
    instant.plus? (instant.till other) = some other := by
  have span := milliseconds_till instant other
  refine plus?_eq_some_iff.mpr ⟨?_, readable⟩
  omega

/-- A signed word of 64 bits, which is none where the number does not fit. -/
def signedWord? (n : Int) : Option Int64 :=
  if -2 ^ 63 ≤ n ∧ n < 2 ^ 63 then some (.ofInt n) else none

def tillWord? (instant later : Int64) : Option UInt64 := do
  let difference ← signedWord? (later.toInt - instant.toInt)
  return if 0 < difference then min difference.toUInt64 9007199254740991 else 0

def plusWord? (instant : Int64) (span : UInt64) : Option Int64 := do
  let signed ← signedWord? span.toNat
  signedWord? (instant.toInt + signed.toInt)

def minusWord? (instant : Int64) (span : UInt64) : Option Int64 := do
  let signed ← signedWord? span.toNat
  signedWord? (instant.toInt - signed.toInt)

def word (instant : Instant) : Int64 := .ofInt instant.milliseconds

theorem signedWord?_of_fits {n : Int} (low : -2 ^ 63 ≤ n) (high : n < 2 ^ 63) :
    signedWord? n = some (.ofInt n) ∧ (Int64.ofInt n).toInt = n :=
  ⟨if_pos ⟨low, high⟩, Int64.toInt_ofInt_of_le low high⟩

theorem toInt_word (instant : Instant) : instant.word.toInt = instant.milliseconds := by
  have early := instant.notBefore
  have late := instant.notAfter
  exact Int64.toInt_ofInt_of_le (by omega) (by omega)

theorem signedWord?_span (span : Duration) :
    ∃ signed, signedWord? (UInt64.ofNat span.milliseconds).toNat = some signed ∧
      signed.toInt = span.milliseconds := by
  have bounded := span.bounded
  have small : span.milliseconds < 2 ^ 64 := by omega
  have same : (UInt64.ofNat span.milliseconds).toNat = span.milliseconds :=
    UInt64.toNat_ofNat_of_lt' small
  rw [same]
  exact ⟨_, signedWord?_of_fits (by omega) (by omega)⟩

theorem tillWord?_word (instant other : Instant) :
    (tillWord? instant.word other.word).map UInt64.toNat =
      some (instant.till other).milliseconds := by
  have early := instant.notBefore
  have late := instant.notAfter
  have otherEarly := other.notBefore
  have otherLate := other.notAfter
  obtain ⟨fits, value⟩ := signedWord?_of_fits
    (n := other.milliseconds - instant.milliseconds) (by omega) (by omega)
  have largest : (9007199254740991 : UInt64).toNat = 9007199254740991 := rfl
  have positive : 0 < Int64.ofInt (other.milliseconds - instant.milliseconds) ↔
      0 < other.milliseconds - instant.milliseconds := by
    rw [Int64.lt_iff_toInt_lt, value, Int64.toInt_zero]
  simp only [tillWord?, toInt_word, fits, Option.bind_eq_bind, Option.bind_some, Option.pure_def,
    Option.map_some, positive, till, Duration.clamped, Option.some.injEq]
  split
  · rename_i after
    have unsigned := Int64.toNat_toUInt64_of_le (Int64.le_of_lt (positive.mpr after))
    rw [← Int64.toNat_toInt, value] at unsigned
    rw [Duration.toNat_min, unsigned, largest]
  · have nothing : (0 : UInt64).toNat = 0 := rfl
    omega

/-- A sum or a difference of an instant and a span in signed words is the exact one. -/
theorem signedWord?_shifted (instant : Instant) (span : Duration) (shift : Int → Int → Int)
    (low : -2 ^ 63 ≤ shift instant.milliseconds span.milliseconds)
    (high : shift instant.milliseconds span.milliseconds < 2 ^ 63) :
    ((signedWord? (UInt64.ofNat span.milliseconds).toNat).bind fun signed =>
        signedWord? (shift instant.word.toInt signed.toInt)).map Int64.toInt =
      some (shift instant.milliseconds span.milliseconds) := by
  obtain ⟨signed, read, same⟩ := signedWord?_span span
  obtain ⟨fits, value⟩ := signedWord?_of_fits low high
  rw [read, Option.bind_some, toInt_word, same, fits, Option.map_some, value]

/-- `plus?` and `minus?` succeed exactly if the exact result is a count that `ofMilliseconds`
accepts; `till` and `since` of both instants are then the span, and the opposite operation gives the
first instant back, if it is readable.  `till` is the exact difference, down to zero and up to the
longest span; where it is exact, `plus?` of it gives a readable later instant.  Words of 64 bits
hold every value on the way. -/
theorem sums_and_differences (instant other : Instant) (span : Duration) :
    ((instant.plus? span).isSome ↔ IsTimestamp (instant.milliseconds + span.milliseconds)) ∧
    (∀ sum, instant.plus? span = some sum →
      sum.milliseconds = instant.milliseconds + span.milliseconds ∧
      instant.till sum = span ∧ sum.since instant = span ∧ sum.minus? span = some instant) ∧
    ((instant.minus? span).isSome ↔ IsTimestamp (instant.milliseconds - span.milliseconds)) ∧
    (∀ rest, instant.minus? span = some rest →
      rest.milliseconds = instant.milliseconds - span.milliseconds ∧
      rest.till instant = span ∧ instant.since rest = span ∧
      (instant.Readable → rest.plus? span = some instant)) ∧
    (instant.till other = other.since instant ∧
      ((instant.till other).milliseconds : Int) =
        min (max 0 (other.milliseconds - instant.milliseconds)) (2 ^ 53 - 1)) ∧
    (instant.till other = .zero ∨ other.till instant = .zero) ∧
    (other.Readable → instant.milliseconds ≤ other.milliseconds →
      other.milliseconds - instant.milliseconds ≤ 2 ^ 53 - 1 →
      instant.plus? (instant.till other) = some other) ∧
    instant.word.toInt = instant.milliseconds ∧
    (tillWord? instant.word other.word).map UInt64.toNat =
      some (instant.till other).milliseconds ∧
    (plusWord? instant.word (.ofNat span.milliseconds)).map Int64.toInt =
      some (instant.milliseconds + span.milliseconds) ∧
    (minusWord? instant.word (.ofNat span.milliseconds)).map Int64.toInt =
      some (instant.milliseconds - span.milliseconds) := by
  have early := instant.notBefore
  have late := instant.notAfter
  have bounded := span.bounded
  refine ⟨isSome_ofMilliseconds_iff _, ?sum, isSome_ofMilliseconds_iff _, ?rest,
    ⟨rfl, instant.milliseconds_till other⟩, instant.till_eq_zero_or other, ?inverse,
    instant.toInt_word, instant.tillWord?_word other, ?wordSum, ?wordDifference⟩
  case sum =>
    intro sum added
    obtain ⟨exact, readable⟩ := plus?_eq_some_iff.mp added
    have between := till_of_sum exact
    refine ⟨exact, between, between, minus?_eq_some_iff.mpr ⟨by omega, ?_⟩⟩
    -- the instant is not after the sum
    unfold Readable at readable ⊢
    omega
  case rest =>
    intro rest taken
    obtain ⟨exact, _⟩ := minus?_eq_some_iff.mp taken
    have sum : instant.milliseconds = rest.milliseconds + span.milliseconds := by omega
    have between := till_of_sum sum
    exact ⟨exact, between, between, fun readable => plus?_eq_some_iff.mpr ⟨sum, readable⟩⟩
  case inverse =>
    intro readable ordered short
    exact plus?_till ordered short readable
  case wordSum =>
    exact instant.signedWord?_shifted span (· + ·) (by omega) (by omega)
  case wordDifference =>
    exact instant.signedWord?_shifted span (· - ·) (by omega) (by omega)

end Curfew.Instant
