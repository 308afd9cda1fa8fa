import Curfew.Allowance.Record
import Curfew.Proofs.Json.RoundTrip
import Curfew.Proofs.SavedState
import Curfew.Protector.Record

namespace Curfew

/-! What is saved as text is read back from it. -/

open Json (Value Plain)

namespace AllowanceTracker

variable {tracker : AllowanceTracker}

theorem plain_toValue (tracker : AllowanceTracker) :
    Plain Value.maximumDepth tracker.toValue := by
  have allowance := tracker.allowance.bounded
  have remaining := tracker.remaining.bounded
  have notBefore := tracker.previous.notBefore
  have notAfter := tracker.previous.notAfter
  refine .array fun item member => ?_
  simp only [List.mem_cons, List.not_mem_nil, or_false] at member
  rcases member with rfl | rfl | rfl
  · exact .integer (by omega)
  · exact .integer (by omega)
  · exact .integer (by omega)

theorem durationOf_natural (span : Duration) :
    durationOf (Json.natural span.milliseconds) = .ok span := by
  have read : Duration.ofMilliseconds span.milliseconds = .ok span :=
    Duration.ofMilliseconds_eq_ok_iff.mpr rfl
  simp only [durationOf, Json.natural, Duration.ofSignedMilliseconds]
  rw [read]
  rfl

theorem instantOf_integer {instant : Instant} (readable : instant.Readable) :
    instantOf (Json.integer instant.milliseconds) = .ok instant := by
  have read : Instant.ofMilliseconds instant.milliseconds = .ok instant :=
    Instant.ofMilliseconds_eq_ok_iff.mpr ⟨rfl, readable⟩
  have small : instant.milliseconds < 9223372036854775808 := by
    have notAfter := instant.notAfter
    omega
  simp only [instantOf, Json.integer, if_pos small, read]
  rfl

theorem bounded_of_ofFields {allowance remaining previous : Value}
    (decoded : ofFields allowance remaining previous = .ok tracker) :
    tracker.remaining.milliseconds ≤ tracker.allowance.milliseconds := by
  obtain ⟨allowance, _, decoded⟩ := bind_eq_ok decoded
  obtain ⟨remaining, _, decoded⟩ := bind_eq_ok decoded
  obtain ⟨previous, _, decoded⟩ := bind_eq_ok decoded
  split at decoded
  · contradiction
  · rename_i notMore
    cases decoded
    exact Nat.le_of_not_gt notMore

theorem bounded_of_ofText {text : String} (decoded : ofText text = .ok tracker) :
    tracker.remaining.milliseconds ≤ tracker.allowance.milliseconds := by
  unfold ofText ofValue at decoded
  split at decoded
  · split at decoded
    case h_4 => exact bounded_of_ofFields decoded
    all_goals contradiction
  · contradiction

theorem ofText_toText (bounded : tracker.remaining.milliseconds ≤ tracker.allowance.milliseconds)
    (readable : tracker.previous.Readable) : ofText tracker.toText = .ok tracker := by
  have value : Value.ofText? tracker.toText = some tracker.toValue :=
    Value.ofText?_text tracker.plain_toValue
  have notMore : ¬ tracker.remaining.milliseconds > tracker.allowance.milliseconds := by omega
  simp only [ofText, value, toValue, ofValue, ofFields, durationOf_natural,
    instantOf_integer readable, mapError_ok, bind, Except.bind, if_neg notMore, pure,
    Except.pure]
  rfl

end AllowanceTracker

theorem SavedCountdown.ofValues?_self (saved : SavedCountdown) :
    ofValues? (Json.natural saved.remaining) (Json.integer saved.previous) = some saved := by
  have fits := And.intro saved.remainingFits saved.previousFits
  simp only [ofValues?, Json.natural, Json.integer, ofInts?]
  rw [dif_pos fits]

namespace SavedState

theorem ascending_countdown (previous remaining state : Value) :
    Entries.Ascending [("previous_sync_ms", previous), ("remaining_ms", remaining),
      ("state", state)] := by
  have first : "previous_sync_ms" < "remaining_ms" := by decide
  have second : "remaining_ms" < "state" := by decide
  refine List.pairwise_cons.mpr ⟨fun entry member => ?_, List.pairwise_cons.mpr
    ⟨fun entry member => ?_, List.pairwise_singleton ..⟩⟩
  · rcases List.mem_cons.mp member with rfl | later
    · exact first
    · cases List.mem_singleton.mp later
      exact String.lt_trans first second
  · cases List.mem_singleton.mp member
    exact second

theorem plain_countdownValue {depth : Nat} (name : String) (saved : SavedCountdown) :
    Plain (depth + 1) (countdownValue name saved) := by
  have remaining := saved.remainingFits
  have previous := saved.previousFits
  refine .object (ascending_countdown ..) fun member found => ?_
  simp only [List.mem_cons, List.not_mem_nil, or_false] at found
  rcases found with rfl | rfl | rfl
  · exact .integer (by omega)
  · exact .integer (by omega)
  · exact .string name

theorem plain_toValue {depth : Nat} (state : SavedState) : Plain (depth + 1) state.toValue := by
  cases state with
  | running saved | deactivating saved => exact plain_countdownValue _ saved
  | idle | activated | deactivated =>
      refine .object (List.pairwise_singleton ..) fun member found => ?_
      cases List.mem_singleton.mp found
      exact .string _

theorem countdownOf?_self (name : String) (saved : SavedCountdown) :
    countdownOf? [("previous_sync_ms", Json.integer saved.previous),
      ("remaining_ms", Json.natural saved.remaining), ("state", .string name)] = some saved := by
  simp [countdownOf?, valuesOf, saved.ofValues?_self]

theorem ofValue?_toValue (state : SavedState) : ofValue? state.toValue = some state := by
  cases state with
  | running saved | deactivating saved =>
      simp [toValue, countdownValue, ofValue?, ofMembers?, valuesOf, name, countdownOf?_self]
  | idle | activated | deactivated =>
      simp [toValue, ofValue?, ofMembers?, valuesOf, name]

end SavedState

namespace SavedStates

theorem plain_toValue (states : SavedStates) : Plain Value.maximumDepth (toValue states) := by
  refine .object (states.map fun _ state => state.toValue).ascending fun member found => ?_
  obtain ⟨entry, _, rfl⟩ := List.mem_map.mp found
  exact entry.2.plain_toValue

theorem mapM_ofMember? (entries : List (String × SavedState)) :
    (entries.map fun entry => (entry.1, entry.2.toValue)).mapM ofMember? = some entries := by
  induction entries with
  | nil => rfl
  | cons entry rest ih => simp [ofMember?, SavedState.ofValue?_toValue, ih]

theorem ofText?_toText (states : SavedStates) : ofText? states.toText = some states := by
  have value : Value.ofText? states.toText = some (toValue states) :=
    Value.ofText?_text (plain_toValue states)
  have members : (states.map fun _ state => state.toValue).entries.mapM ofMember? =
      some states.entries := mapM_ofMember? states.entries
  simp [ofText?, value, toValue, ofValue?, members, Table.ofList_entries]

end SavedStates

end Curfew
