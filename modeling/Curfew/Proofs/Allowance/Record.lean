import Curfew.Proofs.Record

namespace Curfew

/-! Which values are records of an allowance, and why any other is refused. -/

open Json (Value)

/-- The fields in the order in which they stand in a record. -/
def AllowanceField.inOrder : List AllowanceField := [.allowance, .remaining, .previous]

namespace AllowanceTracker

variable {value allowance remaining previous : Value} {span : Duration} {instant : Instant}
  {cause : AllowanceFieldError} {error : AllowanceRecordError} {tracker : AllowanceTracker}

/-- Why `durationOf` refuses a value. -/
inductive NoDuration : Value → AllowanceFieldError → Prop where
  | notAnInteger {value : Value} (other : ∀ n : Int, value ≠ Json.integer n) :
      NoDuration value (.notAnInteger value)
  | negative {n : Int} (below : n < 0) : NoDuration (Json.integer n) (.duration (.negative n))
  | tooLong {n : Nat} (above : 9007199254740991 < n) :
      NoDuration (Json.natural n) (.duration (.tooLarge .milliseconds n))

/-- Why `instantOf` refuses a value.  An integer that does not fit into a signed word of 64 bits is
no integer here. -/
inductive NoInstant : Value → AllowanceFieldError → Prop where
  | notAnInteger {value : Value} (other : ∀ n : Int, n < 9223372036854775808 → value ≠ Json.integer n) :
      NoInstant value (.notAnInteger value)
  | outOfRange {n : Int} (fits : n < 9223372036854775808)
      (outside : n < Instant.earliest ∨ Instant.latest < n) :
      NoInstant (Json.integer n) (.instant ⟨n⟩)

theorem integer_or_other (value : Value) :
    (∃ n, value = Json.integer n) ∨
      (∀ n, value ≠ Json.integer n) ∧ durationOf value = .error (.notAnInteger value) ∧
        instantOf value = .error (.notAnInteger value) := by
  cases value with
  | number number =>
      cases number with
      | integer n => exact .inl ⟨n, rfl⟩
      | binary number => exact .inr ⟨fun n same => (nomatch same), rfl, rfl⟩
  | null | bool | string | array | object => exact .inr ⟨fun n same => (nomatch same), rfl, rfl⟩

theorem durationOf_natural_of_tooLong {n : Nat} (above : 9007199254740991 < n) :
    durationOf (Json.natural n) = .error (.duration (.tooLarge .milliseconds n)) := by
  have bound : TimeUnit.milliseconds.maximum = 9007199254740991 := by decide
  have refused : ¬ n ≤ TimeUnit.milliseconds.maximum := by omega
  simp only [durationOf, Json.natural, Duration.ofSignedMilliseconds, Duration.ofMilliseconds,
    Duration.ofUnits, dif_neg refused]
  rfl

theorem durationOf_of_negative {n : Int} (below : n < 0) :
    durationOf (Json.integer n) = .error (.duration (.negative n)) := by
  cases n with
  | ofNat n => exact absurd below (Int.not_lt.mpr (Int.natCast_nonneg n))
  | negSucc n => rfl

theorem NoDuration.durationOf_eq (refused : NoDuration value cause) :
    durationOf value = .error cause := by
  cases refused with
  | notAnInteger other =>
      rcases integer_or_other value with ⟨n, rfl⟩ | ⟨_, refused, _⟩
      · exact absurd rfl (other n)
      · exact refused
  | negative below => exact durationOf_of_negative below
  | tooLong above => exact durationOf_natural_of_tooLong above

/-- Every value passes `durationOf` or is refused for a reason in `NoDuration`. -/
theorem duration_or_refused (value : Value) :
    (∃ span : Duration, value = Json.natural span.milliseconds) ∨ ∃ cause, NoDuration value cause := by
  rcases integer_or_other value with ⟨n, rfl⟩ | ⟨other, _⟩
  · cases n with
    | negSucc n => exact .inr ⟨_, .negative (Int.negSucc_lt_zero n)⟩
    | ofNat n =>
        by_cases fits : n ≤ 9007199254740991
        · exact .inl ⟨⟨n, fits⟩, rfl⟩
        · exact .inr ⟨_, .tooLong (Nat.not_le.mp fits)⟩
  · exact .inr ⟨_, .notAnInteger other⟩

theorem NoInstant.instantOf_eq (refused : NoInstant value cause) :
    instantOf value = .error cause := by
  cases refused with
  | notAnInteger other =>
      rcases integer_or_other value with ⟨n, rfl⟩ | ⟨_, _, refused⟩
      · have large : ¬ n < 9223372036854775808 := fun small => other n small rfl
        simp only [instantOf, Json.integer, if_neg large]
      · exact refused
  | outOfRange fits outside =>
      rename_i n
      have refused : ¬ (-8334601228800000 ≤ n ∧ n ≤ 8210266876799999) := by
        rintro ⟨notBefore, notAfter⟩
        rcases outside with before | after
        · exact absurd notBefore (Int.not_le.mpr before)
        · exact absurd notAfter (Int.not_le.mpr after)
      simp only [instantOf, Json.integer, if_pos fits, Instant.ofMilliseconds, dif_neg refused]
      rfl

theorem instant_or_refused (value : Value) :
    (∃ instant : Instant, instant.Readable ∧ value = Json.integer instant.milliseconds) ∨
      ∃ cause, NoInstant value cause := by
  rcases integer_or_other value with ⟨n, rfl⟩ | ⟨other, _⟩
  · by_cases fits : n < 9223372036854775808
    · by_cases inside : Instant.earliest ≤ n ∧ n ≤ Instant.latest
      · have beforeLeap : Instant.latest ≤ 8210266876799999 + 1000 := by decide
        exact .inl ⟨⟨n, inside.1, Int.le_trans inside.2 beforeLeap⟩, inside.2, rfl⟩
      · refine .inr ⟨_, .outOfRange fits ?_⟩
        simpa only [Decidable.not_and_iff_or_not, Int.not_le] using inside
    · refine .inr ⟨_, .notAnInteger fun other small same => fits ?_⟩
      cases same
      exact small
  · exact .inr ⟨_, .notAnInteger fun n _ => other n⟩

/-- Why `ofValue` refuses a value.  The constructors are in the order of its checks: the shape and
the length, the fields one after the other, and last whether more remains than is allowed. -/
inductive Refuses : Value → AllowanceRecordError → Prop where
  | notAnArray {value : Value} (other : ∀ items, value ≠ .array items) : Refuses value .notAnArray
  | wrongLength {items : List Value} (many : AllowanceField.inOrder.length < items.length) :
      Refuses (.array items) (.wrongLength items.length)
  | missing {items : List Value} {field : AllowanceField}
      (absent : AllowanceField.inOrder[items.length]? = some field) :
      Refuses (.array items) (.field field .missing)
  | allowance {allowance remaining previous : Value} {cause : AllowanceFieldError}
      (refused : NoDuration allowance cause) :
      Refuses (.array [allowance, remaining, previous]) (.field .allowance cause)
  | remaining {allowance : Duration} {remaining previous : Value} {cause : AllowanceFieldError}
      (refused : NoDuration remaining cause) :
      Refuses (.array [Json.natural allowance.milliseconds, remaining, previous])
        (.field .remaining cause)
  | previous {allowance remaining : Duration} {previous : Value} {cause : AllowanceFieldError}
      (refused : NoInstant previous cause) :
      Refuses (.array [Json.natural allowance.milliseconds, Json.natural remaining.milliseconds,
        previous]) (.field .previous cause)
  | exceedsAllowance {allowance remaining : Duration} {previous : Instant}
      (readable : previous.Readable) (more : allowance.milliseconds < remaining.milliseconds) :
      Refuses (.array [Json.natural allowance.milliseconds, Json.natural remaining.milliseconds,
        Json.integer previous.milliseconds])
        (.field .remaining (.exceedsAllowance remaining allowance))

theorem ofFields_of_valid {allowance remaining : Duration} {previous : Instant}
    (readable : previous.Readable) :
    ofFields (Json.natural allowance.milliseconds) (Json.natural remaining.milliseconds)
        (Json.integer previous.milliseconds) =
      if remaining.milliseconds > allowance.milliseconds then
        .error (.field .remaining (.exceedsAllowance remaining allowance))
      else .ok ⟨allowance, ⟨remaining, previous⟩⟩ := by
  simp only [ofFields, durationOf_natural, instantOf_integer readable, mapError_ok, bind,
    Except.bind]
  split <;> rfl

theorem Refuses.ofValue_eq (refused : Refuses value error) : ofValue value = .error error := by
  cases refused with
  | notAnArray other =>
      cases value with
      | array items => exact absurd rfl (other items)
      | null | bool | number | string | object => rfl
  | wrongLength many =>
      rename_i items
      match items, many with
      | _ :: _ :: _ :: _ :: _, _ => rfl
  | missing absent =>
      rename_i items field
      match items, absent with
      | [], absent | [_], absent | [_, _], absent =>
          cases absent
          rfl
  | allowance refused =>
      simp only [ofValue, ofFields, refused.durationOf_eq, mapError_error, bind, Except.bind]
  | remaining refused =>
      simp only [ofValue, ofFields, durationOf_natural, refused.durationOf_eq, mapError_ok,
        mapError_error, bind, Except.bind]
  | previous refused =>
      simp only [ofValue, ofFields, durationOf_natural, refused.instantOf_eq, mapError_ok,
        mapError_error, bind, Except.bind]
  | exceedsAllowance readable more =>
      rw [ofValue, ofFields_of_valid readable, if_pos more]

theorem ofValue_of_within (bounded : tracker.remaining.milliseconds ≤ tracker.allowance.milliseconds)
    (readable : tracker.previous.Readable) : ofValue tracker.toValue = .ok tracker := by
  rw [toValue, ofValue, ofFields_of_valid readable, if_neg (Nat.not_lt.mpr bounded)]
  rfl

/-- Every value passes `ofValue` or is refused for a reason in `Refuses`. -/
theorem record_or_refused (value : Value) :
    (∃ tracker : AllowanceTracker, value = tracker.toValue ∧
        tracker.remaining.milliseconds ≤ tracker.allowance.milliseconds ∧
        tracker.previous.Readable) ∨ ∃ error, Refuses value error := by
  cases value with
  | null | bool | number | string | object =>
      exact .inr ⟨_, .notAnArray fun items same => (nomatch same)⟩
  | array items =>
      match items with
      | [] => exact .inr ⟨_, .missing rfl⟩
      | [_] => exact .inr ⟨_, .missing rfl⟩
      | [_, _] => exact .inr ⟨_, .missing rfl⟩
      | _ :: _ :: _ :: _ :: rest =>
          have many (n : Nat) : AllowanceField.inOrder.length < n + 1 + 1 + 1 + 1 :=
            Nat.le_add_left 4 n
          exact .inr ⟨_, .wrongLength (many rest.length)⟩
      | [allowance, remaining, previous] =>
          rcases duration_or_refused allowance with ⟨allowance, rfl⟩ | ⟨cause, refused⟩
          · rcases duration_or_refused remaining with ⟨remaining, rfl⟩ | ⟨cause, refused⟩
            · rcases instant_or_refused previous with ⟨previous, readable, rfl⟩ | ⟨cause, refused⟩
              · by_cases bounded : remaining.milliseconds ≤ allowance.milliseconds
                · exact .inl ⟨⟨allowance, ⟨remaining, previous⟩⟩, rfl, bounded, readable⟩
                · exact .inr ⟨_, .exceedsAllowance readable (Nat.not_le.mp bounded)⟩
              · exact .inr ⟨_, .previous refused⟩
            · exact .inr ⟨_, .remaining refused⟩
          · exact .inr ⟨_, .allowance refused⟩

theorem ofValue_eq_ok_iff :
    ofValue value = .ok tracker ↔ value = tracker.toValue ∧
      tracker.remaining.milliseconds ≤ tracker.allowance.milliseconds ∧
      tracker.previous.Readable := by
  constructor
  · intro accepted
    rcases record_or_refused value with ⟨other, rfl, bounded, readable⟩ | ⟨error, refused⟩
    · cases (ofValue_of_within bounded readable).symm.trans accepted
      exact ⟨rfl, bounded, readable⟩
    · cases refused.ofValue_eq.symm.trans accepted
  · rintro ⟨rfl, bounded, readable⟩
    exact ofValue_of_within bounded readable

theorem ofValue_eq_error_iff : ofValue value = .error error ↔ Refuses value error := by
  refine ⟨fun failed => ?_, Refuses.ofValue_eq⟩
  rcases record_or_refused value with ⟨tracker, rfl, bounded, readable⟩ | ⟨cause, refused⟩
  · cases (ofValue_of_within bounded readable).symm.trans failed
  · cases refused.ofValue_eq.symm.trans failed
    exact refused

/-- `ofValue` accepts exactly the arrays of three integers within their bounds of which the second
is not above the first, and gives the tracker with these numbers.  It refuses every other value with
the first error that `Refuses` has for it.  A literal with a point or an exponent, or beyond 64
bits, is never an integer. -/
theorem ofValue_exact :
    (∀ (value : Value) (tracker : AllowanceTracker), ofValue value = .ok tracker ↔
      ∃ allowance remaining previous : Int,
        value = .array [Json.integer allowance, Json.integer remaining, Json.integer previous] ∧
        0 ≤ remaining ∧ remaining ≤ allowance ∧ allowance ≤ 9007199254740991 ∧
        Instant.earliest ≤ previous ∧ previous ≤ Instant.latest ∧
        tracker.allowance.milliseconds = allowance ∧
        tracker.remaining.milliseconds = remaining ∧ tracker.previous.milliseconds = previous) ∧
    (∀ (value : Value) (error : AllowanceRecordError),
      ofValue value = .error error ↔ Refuses value error) ∧
    (∀ (literal : Json.NumberLiteral) (n : Int), Json.numberOf? literal = some (.integer n) →
      literal.fraction = none ∧ literal.exponent = none ∧
        -9223372036854775808 ≤ n ∧ n < 18446744073709551616) := by
  refine ⟨fun value tracker => ?_, fun _ _ => ofValue_eq_error_iff,
    fun _ _ => Json.bounded_of_numberOf?⟩
  rw [ofValue_eq_ok_iff]
  constructor
  · rintro ⟨rfl, bounded, readable⟩
    have allowance := tracker.allowance.bounded
    exact ⟨_, _, _, rfl, Int.natCast_nonneg _, Int.ofNat_le.mpr bounded, Int.ofNat_le.mpr allowance,
      tracker.previous.notBefore, readable, rfl, rfl, rfl⟩
  · rintro ⟨_, _, _, rfl, _, bounded, _, _, readable, rfl, rfl, rfl⟩
    exact ⟨rfl, Int.ofNat_le.mp bounded, readable⟩

/-- Of two fields that are wrong the first one is named. -/
example : ofValue (.array [Json.integer 60000, Json.integer (-5), .null]) =
    .error (.field .remaining (.duration (.negative (-5)))) := rfl

end AllowanceTracker

end Curfew
