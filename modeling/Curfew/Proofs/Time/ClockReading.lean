import Curfew.Proofs.Json.Record
import Curfew.Proofs.Time.Instant

namespace Curfew

/-! An instant is what is left of a reading to whole milliseconds, and it is saved as their
count.  All of them are read back but those of the leap second at the very end, which no clock
shows after a whole number of ordinary seconds. -/

namespace ClockReading

variable {reading : ClockReading} {count seconds : Int} {nanoseconds : Nat}

theorem ofParts?_eq_some_iff :
    ofParts? seconds nanoseconds = some reading ↔
      reading.seconds = seconds ∧ reading.nanoseconds = nanoseconds := by
  unfold ofParts?
  constructor
  · intro shown
    split at shown
    · cases shown
      exact ⟨rfl, rfl⟩
    · contradiction
  · rintro ⟨rfl, rfl⟩
    rw [dif_pos ⟨reading.notBefore, reading.notAfter, reading.fraction⟩]

theorem ofMilliseconds?_eq_some_iff :
    ofMilliseconds? count = some reading ↔
      reading.seconds = count / 1000 ∧ (reading.nanoseconds : Int) = count % 1000 * 1000000 := by
  rw [ofMilliseconds?, ofParts?_eq_some_iff]
  omega

theorem milliseconds_of_ofMilliseconds? (shown : ofMilliseconds? count = some reading) :
    reading.milliseconds = count := by
  obtain ⟨seconds, nanoseconds⟩ := ofMilliseconds?_eq_some_iff.mp shown
  unfold milliseconds
  omega

theorem milliseconds_truncated (reading : ClockReading) :
    reading.truncated.milliseconds = reading.milliseconds := by
  unfold truncated
  cases shown : ofMilliseconds? reading.milliseconds with
  | none => rfl
  | some other => exact milliseconds_of_ofMilliseconds? shown

theorem milliseconds_eq_div (reading : ClockReading) :
    reading.milliseconds = (reading.seconds * 1000000000 + reading.nanoseconds) / 1000000 := by
  unfold milliseconds
  omega

/-- The leap second at the end of the last day of the calendar. -/
def InLastLeapSecond (reading : ClockReading) : Prop :=
  reading.seconds = 8210266876799 ∧ 1000000000 ≤ reading.nanoseconds

end ClockReading

namespace Instant

open Json (Plain Value Record)

variable {instant : Instant} {reading : ClockReading}

@[simp] theorem milliseconds_ofReading (reading : ClockReading) :
    (ofReading reading).milliseconds = reading.milliseconds :=
  reading.milliseconds_truncated

theorem readable_ofReading_iff : (ofReading reading).Readable ↔ ¬ reading.InLastLeapSecond := by
  have last := reading.notAfter
  have fraction := reading.fraction
  simp only [Readable, milliseconds_ofReading, ClockReading.milliseconds, latest,
    ClockReading.InLastLeapSecond]
  omega

theorem milliseconds_toReading (instant : Instant) :
    instant.toReading.milliseconds = instant.milliseconds := by
  simp only [ClockReading.milliseconds, toReading]
  omega

theorem ofReading_toReading (instant : Instant) : ofReading instant.toReading = instant :=
  ext_milliseconds ((milliseconds_ofReading _).trans instant.milliseconds_toReading)

theorem ofMilliseconds?_eq_toReading_iff :
    ClockReading.ofMilliseconds? instant.milliseconds = some instant.toReading ↔
      instant.Readable := by
  have late := instant.notAfter
  simp only [ClockReading.ofMilliseconds?_eq_some_iff, toReading, Readable, latest]
  omega

theorem toReading_ofReading (shown : ¬ reading.InLastLeapSecond) :
    (ofReading reading).toReading = reading.truncated := by
  have told := ofMilliseconds?_eq_toReading_iff.mpr (readable_ofReading_iff.mpr shown)
  rw [milliseconds_ofReading] at told
  rw [ClockReading.truncated, told, Option.getD_some]

theorem truncated_of_inLastLeapSecond (leap : reading.InLastLeapSecond) :
    reading.truncated = reading := by
  unfold ClockReading.truncated
  cases shown : ClockReading.ofMilliseconds? reading.milliseconds with
  | none => rfl
  | some other =>
      -- one second later no clock shows anything
      obtain ⟨last, past⟩ := leap
      obtain ⟨seconds, _⟩ := ClockReading.ofMilliseconds?_eq_some_iff.mp shown
      have notAfter := other.notAfter
      unfold ClockReading.milliseconds at seconds
      omega

theorem ofMilliseconds_milliseconds (instant : Instant) :
    ofMilliseconds instant.milliseconds =
      if instant.Readable then .ok instant else .error ⟨instant.milliseconds⟩ := by
  split
  · rename_i readable
    exact ofMilliseconds_eq_ok_iff.mpr ⟨rfl, readable⟩
  · rename_i notReadable
    exact dif_neg fun inRange => notReadable inRange.2

theorem plain_encode (instant : Instant) :
    Plain Value.maximumDepth (Record.encode instant) := by
  have early := instant.notBefore
  have late := instant.notAfter
  exact .integer (by omega)

theorem ofText?_toText (instant : Instant) :
    Record.ofText? Instant (Record.toText instant) =
      if instant.Readable then some instant else none := by
  obtain ⟨tree, read, meant⟩ := instant.plain_encode.exists_tree
  have count := Json.integerOf?_of_meant meant
  simp only [Record.ofText?, Record.toText, read, Record.decode?, count, Option.bind_eq_bind,
    Option.bind_some, ofMilliseconds_milliseconds]
  split <;> rfl

theorem readable_of_ofText? {text : String} (read : Record.ofText? Instant text = some instant) :
    instant.Readable := by
  obtain ⟨tree, _, decoded⟩ := Option.bind_eq_some_iff.mp read
  obtain ⟨count, _, made⟩ := Option.bind_eq_some_iff.mp decoded
  exact (toOption_ofMilliseconds_eq_some_iff.mp made).2

/-- `ofReading` rounds a reading down to whole milliseconds, before 1970 as well, and `toReading`
gives the reading without the part of a millisecond.  Every instant that comes from a count, from
`plus?` or `minus?` or from a text is read back from its count and from its text.  That fails in the
leap second at the end of the calendar alone: the reading is not rounded there, and its count and
its text are refused. -/
theorem read_back_exact (reading : ClockReading) (instant : Instant) (count : Int)
    (span : Duration) (text : String) :
    (ofReading reading).milliseconds =
      (reading.seconds * 1000000000 + reading.nanoseconds) / 1000000 ∧
    ((ofReading reading).Readable ↔ ¬ reading.InLastLeapSecond) ∧
    (¬ reading.InLastLeapSecond →
      reading.truncated = (ofReading reading).toReading ∧
      reading.truncated.seconds = (ofReading reading).milliseconds / 1000 ∧
      (reading.truncated.nanoseconds : Int) =
        (ofReading reading).milliseconds % 1000 * 1000000) ∧
    (reading.InLastLeapSecond → reading.truncated = reading) ∧
    ofReading instant.toReading = instant ∧
    (ClockReading.ofMilliseconds? instant.milliseconds = some instant.toReading ↔
      instant.Readable) ∧
    ofMilliseconds instant.milliseconds =
      (if instant.Readable then .ok instant else .error ⟨instant.milliseconds⟩) ∧
    Record.ofText? Instant (Record.toText instant) =
      (if instant.Readable then some instant else none) ∧
    ∀ made, ofMilliseconds count = .ok made ∨ instant.plus? span = some made ∨
      instant.minus? span = some made ∨ Record.ofText? Instant text = some made →
        made.Readable := by
  refine ⟨?floor, readable_ofReading_iff, ?shown, truncated_of_inLastLeapSecond,
    instant.ofReading_toReading, ofMilliseconds?_eq_toReading_iff,
    instant.ofMilliseconds_milliseconds, instant.ofText?_toText, ?made⟩
  case floor => rw [milliseconds_ofReading, reading.milliseconds_eq_div]
  case shown =>
    intro shown
    have told := ofMilliseconds?_eq_toReading_iff.mpr (readable_ofReading_iff.mpr shown)
    rw [toReading_ofReading shown] at told
    exact ⟨(toReading_ofReading shown).symm, ClockReading.ofMilliseconds?_eq_some_iff.mp told⟩
  case made =>
    intro made origin
    rcases origin with accepted | added | taken | read
    · exact (ofMilliseconds_eq_ok_iff.mp accepted).2
    · exact (plus?_eq_some_iff.mp added).2
    · exact (minus?_eq_some_iff.mp taken).2
    · exact readable_of_ofText? read

/-- The last nanosecond of the leap second at the end of the calendar. -/
def lastNanosecond : ClockReading where
  seconds := 8210266876799
  nanoseconds := 1999999999
  notBefore := by decide
  notAfter := by decide
  fraction := by decide

/-- `ofReading` of that nanosecond is an instant whose text `ofText?` refuses. -/
theorem lastNanosecond_lost :
    (ofReading lastNanosecond).milliseconds = 8210266876800999 ∧
    lastNanosecond.truncated.nanoseconds = 1999999999 ∧
    ofMilliseconds (ofReading lastNanosecond).milliseconds = .error ⟨8210266876800999⟩ ∧
    Record.ofText? Instant (Record.toText (ofReading lastNanosecond)) = none := by
  have leap : lastNanosecond.InLastLeapSecond := by
    unfold ClockReading.InLastLeapSecond
    decide
  have notReadable : ¬ (ofReading lastNanosecond).Readable :=
    fun readable => readable_ofReading_iff.mp readable leap
  refine ⟨milliseconds_ofReading _, ?_, ?_, ?_⟩
  · rw [truncated_of_inLastLeapSecond leap]
    rfl
  · rw [ofMilliseconds_milliseconds, if_neg notReadable]
    rfl
  · rw [ofText?_toText, if_neg notReadable]

end Instant

end Curfew
