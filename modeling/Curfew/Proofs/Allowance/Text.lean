import Curfew.Proofs.Allowance.Record
import Curfew.Proofs.Json.Spacing

namespace Curfew

/-! The allowance as text: it is read back from what is written, with any spacing. -/

open Json (Value Spaced Scans)

namespace AllowanceTracker

variable {tracker other : AllowanceTracker} {text : List Char}

theorem toValue_inj (same : tracker.toValue = other.toValue) : tracker = other := by
  obtain ⟨⟨allowance, _⟩, ⟨⟨remaining, _⟩, ⟨previous, _, _⟩⟩⟩ := tracker
  obtain ⟨⟨allowance', _⟩, ⟨⟨remaining', _⟩, ⟨previous', _, _⟩⟩⟩ := other
  simp only [toValue, Json.natural, Json.integer, Value.array.injEq, List.cons.injEq,
    Value.number.injEq, Json.Number.integer.injEq, AllowanceTracker.remaining,
    AllowanceTracker.previous] at same
  obtain ⟨allowances, remainings, previouses, _⟩ := same
  cases Int.ofNat_inj.mp allowances
  cases Int.ofNat_inj.mp remainings
  cases previouses
  rfl

theorem ofText_eq_ok_iff {text : String} :
    ofText text = .ok tracker ↔ Value.ofText? text = some tracker.toValue ∧
      tracker.remaining.milliseconds ≤ tracker.allowance.milliseconds ∧
      tracker.previous.Readable := by
  unfold ofText
  cases Value.ofText? text with
  | none => simp
  | some value => simp only [ofValue_eq_ok_iff, Option.some.injEq]

theorem ofText_toText_eq_ok_iff :
    ofText tracker.toText = .ok other ↔ other = tracker ∧
      tracker.remaining.milliseconds ≤ tracker.allowance.milliseconds ∧
      tracker.previous.Readable := by
  have value : Value.ofText? tracker.toText = some tracker.toValue :=
    Value.ofText?_text tracker.plain_toValue
  rw [ofText_eq_ok_iff, value]
  constructor
  · rintro ⟨same, bounds⟩
    cases toValue_inj (Option.some.inj same)
    exact ⟨rfl, bounds⟩
  · rintro ⟨rfl, bounds⟩
    exact ⟨rfl, bounds⟩

/-- The pieces of `toText` between which blanks may stand. -/
def pieces (tracker : AllowanceTracker) : List (List Char) :=
  [['['], Decimal.intDigits tracker.allowance.milliseconds, [','],
    Decimal.intDigits tracker.remaining.milliseconds, [','],
    Decimal.intDigits tracker.previous.milliseconds, [']']]

theorem toList_toText (tracker : AllowanceTracker) :
    tracker.toText.toList = tracker.pieces.flatten := by
  rw [toText, Value.text, tracker.plain_toValue.sorted, String.toList_ofList]
  simp [toValue, Json.natural, Json.integer, Value.chars, Json.itemsChars, Json.numberChars, pieces]

theorem ofText?_of_spaced (spaced : Spaced tracker.pieces text) :
    Value.ofText? (String.ofList text) = some tracker.toValue := by
  obtain ⟨allowance, scanAllowance, allowanceMeant⟩ := Json.integer_read
    (n := tracker.allowance.milliseconds) (by have := tracker.allowance.bounded; omega)
  obtain ⟨remaining, scanRemaining, remainingMeant⟩ := Json.integer_read
    (n := tracker.remaining.milliseconds) (by have := tracker.remaining.bounded; omega)
  obtain ⟨previous, scanPrevious, previousMeant⟩ := Json.integer_read
    (n := tracker.previous.milliseconds)
    (by have := tracker.previous.notBefore; have := tracker.previous.notAfter; omega)
  have scans : Scans text [.openBracket, .number allowance, .comma, .number remaining, .comma,
      .number previous, .closeBracket] := by
    refine spaced.scans_mark rfl (fun _ => rfl) fun behind => ?_
    refine behind.scans_integer scanAllowance (Spaced.ends (by decide)) fun behind => ?_
    refine behind.scans_mark rfl (fun _ => rfl) fun behind => ?_
    refine behind.scans_integer scanRemaining (Spaced.ends (by decide)) fun behind => ?_
    refine behind.scans_mark rfl (fun _ => rfl) fun behind => ?_
    refine behind.scans_integer scanPrevious (Spaced.ends (by decide)) fun behind => ?_
    exact behind.scans_mark rfl (fun _ => rfl) Spaced.scans_end
  have tokens : Json.tokens? text = _ := scans _ (Nat.le_refl _)
  have tree : Json.Tree.ofText? (String.ofList text) =
      some (.array [.number allowance, .number remaining, .number previous]) := by
    rw [Json.Tree.ofText?, String.toList_ofList, tokens]
    rfl
  rw [Value.ofText?, tree]
  simp [Value.maximumDepth, Value.ofTree?, allowanceMeant, remainingMeant, previousMeant, toValue,
    Json.natural, Json.integer]

/-- `ofText` accepts the text of a tracker exactly if no more remains than is allowed and the
instant is readable, and then gives the same tracker.  What it accepts has a text that it accepts
again, and blanks between the pieces of a text change nothing. -/
theorem ofText_toText_exact :
    (∀ tracker other : AllowanceTracker, ofText tracker.toText = .ok other ↔
      other = tracker ∧ tracker.remaining.milliseconds ≤ tracker.allowance.milliseconds ∧
        tracker.previous.Readable) ∧
    (∀ (text : String) (tracker : AllowanceTracker), ofText text = .ok tracker →
      ofText tracker.toText = .ok tracker) ∧
    (∀ (tracker : AllowanceTracker) (text : List Char), Spaced tracker.pieces text →
      ofText (String.ofList text) = ofText tracker.toText) := by
  refine ⟨fun tracker other => ofText_toText_eq_ok_iff, fun text tracker accepted => ?_,
    fun tracker text spaced => ?_⟩
  · exact ofText_toText_eq_ok_iff.mpr ⟨rfl, (ofText_eq_ok_iff.mp accepted).2⟩
  · have written : String.ofList tracker.pieces.flatten = tracker.toText := by
      rw [← toList_toText, String.ofList_toList]
    have plain := ofText?_of_spaced (Json.spaced_flatten tracker.pieces)
    rw [written] at plain
    rw [ofText, ofText, ofText?_of_spaced spaced, plain]

/-- Half a minute of two is left, an hour before 1970. -/
example : (ofText " [ 120000,\n 30000 ,-3600000 ]").toOption =
    some ⟨⟨120000, by decide⟩, ⟨⟨30000, by decide⟩, ⟨-3600000, by decide, by decide⟩⟩⟩ := by
  decide +kernel

end AllowanceTracker

end Curfew
