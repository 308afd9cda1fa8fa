import Curfew.Proofs.Json.Record
import Curfew.Time.DailyWindow
import Mathlib.Algebra.Group.Nat.Defs

namespace Curfew

/-! A window opens anew on every day, before and after the day that is asked about.  Days are
counted from any midnight, and instants in milliseconds from the same one. -/

namespace DailyWindow

/-- The window that opens on a day is open at an instant. -/
def CoversFrom (window : DailyWindow) (day instant : Int) : Prop :=
  day * 86400000 + window.opens ≤ instant ∧ instant ≤ day * 86400000 + window.closes

/-- The bounds on the ends of a window. -/
structure Bounds (opens closes : Nat) : Prop where
  opensWithinDay : opens < 86400000
  ordered : opens ≤ closes
  closesWithinNextDay : closes < 2 * 86400000
  withinOneDay : closes - opens ≤ 86400000

variable {window : DailyWindow} {start finish : Nat}

/-- If any opening covers the instant, the last one before it does. -/
theorem exists_coversFrom_iff (window : DailyWindow) (instant : Int) :
    (∃ day, window.CoversFrom day instant) ↔
      (instant - window.opens) % 86400000 ≤ window.closes - window.opens := by
  constructor
  · rintro ⟨day, opened, notClosed⟩
    have passed : day ≤ (instant - window.opens) / 86400000 := by omega
    omega
  · intro short
    refine ⟨(instant - window.opens) / 86400000, ?_, ?_⟩
    · omega
    · omega

theorem contains_iff_mod (window : DailyWindow) (time : TimeOfDay) :
    window.contains time = true ↔
      ((time.milliseconds : Int) - window.opens) % 86400000 ≤ window.closes - window.opens := by
  have opens := window.opensWithinDay
  have ordered := window.ordered
  have closes := window.closesWithinNextDay
  have short := window.withinOneDay
  have within := time.withinDay
  simp only [contains, Bool.or_eq_true, Bool.and_eq_true, decide_eq_true_eq]
  -- The last opening was today or yesterday.
  by_cases today : window.opens ≤ time.milliseconds
  · omega
  · omega

theorem contains_iff_exists (window : DailyWindow) (day : Int) (time : TimeOfDay) :
    window.contains time = true ↔
      ∃ opening, window.CoversFrom opening (day * 86400000 + time.milliseconds) := by
  have sameTime : (day * 86400000 + time.milliseconds - window.opens : Int) % 86400000 =
      ((time.milliseconds : Int) - window.opens) % 86400000 := by omega
  rw [exists_coversFrom_iff, contains_iff_mod, sameTime]

theorem bounds (window : DailyWindow) : Bounds window.opens window.closes :=
  ⟨window.opensWithinDay, window.ordered, window.closesWithinNextDay, window.withinOneDay⟩

theorem ofMilliseconds_eq_ok_iff :
    ofMilliseconds start finish = .ok window ↔ window.opens = start ∧ window.closes = finish := by
  constructor
  · intro made
    unfold ofMilliseconds at made
    split at made <;> try contradiction
    split at made <;> try contradiction
    split at made <;> try contradiction
    split at made <;> try contradiction
    cases made
    exact ⟨rfl, rfl⟩
  · rintro ⟨rfl, rfl⟩
    obtain ⟨opens, ordered, closes, short⟩ := window.bounds
    rw [ofMilliseconds, dif_pos opens, dif_pos closes, dif_pos ordered, dif_pos short]

theorem exists_ofMilliseconds_iff :
    (∃ window, ofMilliseconds start finish = .ok window) ↔ Bounds start finish := by
  constructor
  · rintro ⟨window, made⟩
    obtain ⟨rfl, rfl⟩ := ofMilliseconds_eq_ok_iff.mp made
    exact window.bounds
  · intro ⟨opens, ordered, closes, short⟩
    exact ⟨⟨start, finish, opens, ordered, closes, short⟩, ofMilliseconds_eq_ok_iff.mpr ⟨rfl, rfl⟩⟩

@[simp] theorem opens_ofTimes (opening closing : TimeOfDay) :
    (ofTimes opening closing).opens = opening.milliseconds := by
  unfold ofTimes
  split <;> rfl

@[simp] theorem closes_ofTimes (opening closing : TimeOfDay) :
    (ofTimes opening closing).closes =
      if opening.milliseconds ≤ closing.milliseconds then closing.milliseconds
      else closing.milliseconds + 86400000 := by
  unfold ofTimes
  split <;> rfl

/-- The window from one time of day to another, which is one of the next day if it is earlier. -/
inductive Between (opening closing : TimeOfDay) (window : DailyWindow) : Prop where
  | withinDay (ordered : opening.milliseconds ≤ closing.milliseconds)
      (opens : window.opens = opening.milliseconds) (closes : window.closes = closing.milliseconds)
  | intoNextDay (earlier : closing.milliseconds < opening.milliseconds)
      (opens : window.opens = opening.milliseconds)
      (closes : window.closes = closing.milliseconds + 86400000)

theorem between_iff {opening closing : TimeOfDay} :
    window.Between opening closing ↔ window = .ofTimes opening closing := by
  rw [eq_iff, opens_ofTimes, closes_ofTimes]
  constructor
  · rintro (⟨ordered, opens, closes⟩ | ⟨earlier, opens, closes⟩)
    · exact ⟨opens, by rw [if_pos ordered, closes]⟩
    · exact ⟨opens, by rw [if_neg (Nat.not_le.mpr earlier), closes]⟩
  · rintro ⟨opens, closes⟩
    by_cases ordered : opening.milliseconds ≤ closing.milliseconds
    · rw [if_pos ordered] at closes
      exact .withinDay ordered opens closes
    · rw [if_neg ordered] at closes
      exact .intoNextDay (Nat.not_le.mp ordered) opens closes

open Json (Plain Value Record)

theorem plain_encode (window : DailyWindow) :
    Plain Value.maximumDepth (Record.encode window) := by
  obtain ⟨opens, ordered, closes, short⟩ := window.bounds
  have names : "from" < "till" := by decide
  refine .object ?_ fun member found => ?_
  · exact List.pairwise_pair.mpr names
  · simp only [List.mem_cons, List.not_mem_nil, or_false] at found
    rcases found with rfl | rfl
    · exact .integer (by omega)
    · exact .integer (by omega)

theorem ofText?_toText (window : DailyWindow) :
    Record.ofText? DailyWindow (Record.toText window) = some window := by
  obtain ⟨tree, read, meant⟩ := window.plain_encode.exists_tree
  obtain ⟨members, rfl, entries⟩ := Json.exists_members_of_meant meant
  have distinct : ["from", "till"].Nodup := by decide
  obtain ⟨opens, opensFound, opensMeant⟩ :=
    Json.fieldOf?_of_meant entries distinct (.head _)
  obtain ⟨closes, closesFound, closesMeant⟩ :=
    Json.fieldOf?_of_meant entries distinct (.tail _ (.head _))
  have remade : ofMilliseconds window.opens window.closes = .ok window :=
    ofMilliseconds_eq_ok_iff.mpr ⟨rfl, rfl⟩
  simp [Record.ofText?, Record.toText, read, Record.decode?, opensFound, closesFound,
    Json.naturalOf?_of_meant opensMeant, Json.naturalOf?_of_meant closesMeant, remade,
    Except.toOption]

/-- A sum of words of 32 bits, which is none where it is too large. -/
def wordSum? (left right : UInt32) : Option UInt32 :=
  if left.toNat + right.toNat < 2 ^ 32 then some (left + right) else none

def closingWord? (opening closing : UInt32) : Option UInt32 :=
  if opening ≤ closing then some closing else wordSum? closing 86400000

def containsWord? (opens closes time : UInt32) : Option Bool := do
  let sinceYesterday ← wordSum? time 86400000
  return (opens ≤ time && time ≤ closes) || (opens ≤ sinceYesterday && sinceYesterday ≤ closes)

theorem toNat_ofNat {n : Nat} (fits : n < 2 ^ 32) : (UInt32.ofNat n).toNat = n :=
  UInt32.toNat_ofNat_of_lt' fits

theorem ofNat_le_ofNat_iff {left right : Nat} (leftFits : left < 2 ^ 32)
    (rightFits : right < 2 ^ 32) : UInt32.ofNat left ≤ UInt32.ofNat right ↔ left ≤ right := by
  rw [UInt32.le_iff_toNat_le, toNat_ofNat leftFits, toNat_ofNat rightFits]

theorem wordSum?_day {n : Nat} (fits : n + 86400000 < 2 ^ 32) :
    wordSum? (.ofNat n) 86400000 = some (.ofNat (n + 86400000)) := by
  have alone : (UInt32.ofNat n).toNat = n := toNat_ofNat (by omega)
  have day : (86400000 : UInt32).toNat = 86400000 := rfl
  rw [wordSum?, alone, day, if_pos fits, UInt32.ofNat_add]
  rfl

theorem closingWord?_ofNat (opening closing : TimeOfDay) :
    (closingWord? (.ofNat opening.milliseconds) (.ofNat closing.milliseconds)).map UInt32.toNat =
      some (ofTimes opening closing).closes := by
  have openingWithin := opening.withinDay
  have closingWithin := closing.withinDay
  have fits : closing.milliseconds + 86400000 < 2 ^ 32 := by omega
  rw [closingWord?, wordSum?_day fits, closes_ofTimes]
  simp only [ofNat_le_ofNat_iff (show opening.milliseconds < 2 ^ 32 by omega)
    (show closing.milliseconds < 2 ^ 32 by omega)]
  split
  · exact congrArg some (toNat_ofNat (by omega))
  · exact congrArg some (toNat_ofNat (by omega))

theorem containsWord?_ofNat (window : DailyWindow) (time : TimeOfDay) :
    containsWord? (.ofNat window.opens) (.ofNat window.closes) (.ofNat time.milliseconds) =
      some (window.contains time) := by
  have opens : window.opens < 2 ^ 32 := by have := window.opensWithinDay; omega
  have closes : window.closes < 2 ^ 32 := by have := window.closesWithinNextDay; omega
  have within := time.withinDay
  have today : time.milliseconds < 2 ^ 32 := by omega
  have sinceYesterday : time.milliseconds + 86400000 < 2 ^ 32 := by omega
  simp only [containsWord?, wordSum?_day sinceYesterday, contains, Option.bind_eq_bind,
    Option.bind_some, ofNat_le_ofNat_iff opens today, ofNat_le_ofNat_iff today closes,
    ofNat_le_ofNat_iff opens sinceYesterday, ofNat_le_ofNat_iff sinceYesterday closes]
  rfl

/-- `contains` holds for a time of day exactly if some opening of the window, on whatever day,
covers that time on a given day.  `ofTimes` gives a window within `Bounds` that closes when the
clock next shows the second time; `ofMilliseconds` accepts exactly the ends within `Bounds`; a
window is read back from its text.  Words of 32 bits hold every value on the way. -/
theorem daily_repetitions :
    (∀ (window : DailyWindow) (day : Int) (time : TimeOfDay),
      (window.contains time = true ↔
        ∃ opening, window.CoversFrom opening (day * 86400000 + time.milliseconds)) ∧
      (window.contains time = true ↔
        ((time.milliseconds : Int) - window.opens) % 86400000 ≤ window.closes - window.opens)) ∧
    (∀ opening closing : TimeOfDay,
      (ofTimes opening closing).opens = opening.milliseconds ∧
      (ofTimes opening closing).closes =
        (if opening.milliseconds ≤ closing.milliseconds then closing.milliseconds
          else closing.milliseconds + 86400000) ∧
      Bounds (ofTimes opening closing).opens (ofTimes opening closing).closes) ∧
    (∀ start finish : Nat,
      ((∃ window, ofMilliseconds start finish = .ok window) ↔ Bounds start finish) ∧
      ∀ window, ofMilliseconds start finish = .ok window ↔
        window.opens = start ∧ window.closes = finish) ∧
    (∀ window : DailyWindow, Record.ofText? DailyWindow (Record.toText window) = some window) ∧
    (∀ opening closing : TimeOfDay,
      (closingWord? (.ofNat opening.milliseconds) (.ofNat closing.milliseconds)).map UInt32.toNat =
        some (ofTimes opening closing).closes) ∧
    (∀ (window : DailyWindow) (time : TimeOfDay),
      containsWord? (.ofNat window.opens) (.ofNat window.closes) (.ofNat time.milliseconds) =
        some (window.contains time)) := by
  refine ⟨fun window day time => ?_, fun opening closing => ?_, fun start finish => ?_,
    ofText?_toText, closingWord?_ofNat, containsWord?_ofNat⟩
  · exact ⟨window.contains_iff_exists day time, window.contains_iff_mod time⟩
  · exact ⟨opens_ofTimes opening closing, closes_ofTimes opening closing,
      (ofTimes opening closing).bounds⟩
  · exact ⟨exists_ofMilliseconds_iff, fun _ => ofMilliseconds_eq_ok_iff⟩

end DailyWindow

end Curfew
