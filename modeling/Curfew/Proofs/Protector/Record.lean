import Curfew.Proofs.Record

namespace Curfew

/-! Which values are saved states, and what their text says of them. -/

open Json (Value)

theorem SavedCountdown.ofValues?_eq_some_iff {remaining previous : Value} {saved : SavedCountdown} :
    ofValues? remaining previous = some saved ↔
      remaining = Json.natural saved.remaining ∧ previous = Json.integer saved.previous := by
  constructor
  · intro read
    unfold ofValues? at read
    split at read
    · rename_i remaining previous
      cases remaining with
      | negSucc => contradiction
      | ofNat remaining =>
          simp only [ofInts?] at read
          split at read
          · cases read
            exact ⟨rfl, rfl⟩
          · contradiction
    · contradiction
  · rintro ⟨rfl, rfl⟩
    exact saved.ofValues?_self

namespace SavedState

variable {value : Value} {state : SavedState} {saved : SavedCountdown}
  {members : List (String × Value)}

/-- The counts of a state, as they follow its name in an array. -/
def counts (state : SavedState) : List Value :=
  state.countdown?.toList.flatMap fun saved =>
    [Json.natural saved.remaining, Json.integer saved.previous]

/-- A value stands for a state: an object with its name and its counts, each of them once and among
any other members, or an array of just these. -/
inductive Denotes : Value → SavedState → Prop where
  | members {members : List (String × Value)} {state : SavedState}
      (name : valuesOf "state" members = [.string state.name])
      (counts : ∀ saved ∈ state.countdown?,
        valuesOf "remaining_ms" members = [Json.natural saved.remaining] ∧
          valuesOf "previous_sync_ms" members = [Json.integer saved.previous]) :
      Denotes (.object members) state
  | items (state : SavedState) : Denotes (.array (.string state.name :: state.counts)) state

theorem countdownOf?_eq_some_iff :
    countdownOf? members = some saved ↔
      valuesOf "remaining_ms" members = [Json.natural saved.remaining] ∧
        valuesOf "previous_sync_ms" members = [Json.integer saved.previous] := by
  unfold countdownOf?
  split
  · rename_i remaining previous foundRemaining foundPrevious
    simp [foundRemaining, foundPrevious, SavedCountdown.ofValues?_eq_some_iff]
  · rename_i notBoth
    simp only [reduceCtorEq, false_iff]
    rintro ⟨remaining, previous⟩
    exact notBoth _ _ remaining previous

theorem ofMembers?_eq_some_iff :
    ofMembers? members = some state ↔ Denotes (.object members) state := by
  constructor
  · intro read
    unfold ofMembers? at read
    split at read
    case h_1 name | h_3 name | h_5 name =>
      cases read
      exact .members name fun _ counting => by contradiction
    case h_2 name | h_4 name =>
      obtain ⟨saved, found, rfl⟩ := Option.map_eq_some_iff.mp read
      refine .members name fun _ counting => ?_
      cases counting
      exact countdownOf?_eq_some_iff.mp found
    case h_6 => contradiction
  · intro denotes
    cases denotes with
    | members name counts =>
        cases state with
        | idle | activated | deactivated => simp [ofMembers?, name, SavedState.name]
        | running saved | deactivating saved =>
            have found := countdownOf?_eq_some_iff.mpr (counts saved rfl)
            simp [ofMembers?, name, SavedState.name, found]

theorem ofItems?_eq_some_iff {items : List Value} :
    ofItems? items = some state ↔ Denotes (.array items) state := by
  constructor
  · intro read
    unfold ofItems? at read
    split at read
    case h_1 =>
      cases read
      exact Denotes.items .idle
    case h_2 =>
      obtain ⟨saved, found, rfl⟩ := Option.map_eq_some_iff.mp read
      obtain ⟨rfl, rfl⟩ := SavedCountdown.ofValues?_eq_some_iff.mp found
      exact Denotes.items (.running saved)
    case h_3 =>
      cases read
      exact Denotes.items .activated
    case h_4 =>
      obtain ⟨saved, found, rfl⟩ := Option.map_eq_some_iff.mp read
      obtain ⟨rfl, rfl⟩ := SavedCountdown.ofValues?_eq_some_iff.mp found
      exact Denotes.items (.deactivating saved)
    case h_5 =>
      cases read
      exact Denotes.items .deactivated
    case h_6 => contradiction
  · intro denotes
    cases denotes with
    | items =>
        cases state with
        | idle | activated | deactivated => rfl
        | running saved | deactivating saved =>
            simp [ofItems?, SavedState.name, counts, countdown?, saved.ofValues?_self]

/-- A value is read as a state exactly if it stands for it. -/
theorem ofValue?_eq_some_iff : ofValue? value = some state ↔ Denotes value state := by
  cases value with
  | object members => exact ofMembers?_eq_some_iff
  | array items => exact ofItems?_eq_some_iff
  | null | bool | number | string =>
      simp only [ofValue?, reduceCtorEq, false_iff]
      intro denotes
      cases denotes

end SavedState

namespace SavedStates

variable {value : Value} {states other : SavedStates}

/-- Members whose values denote states, by id. -/
inductive Denote : List (String × Value) → List (String × SavedState) → Prop where
  | nil : Denote [] []
  | cons {id : String} {value : Value} {state : SavedState} {members : List (String × Value)}
      {saved : List (String × SavedState)} (denotes : SavedState.Denotes value state)
      (others : Denote members saved) : Denote ((id, value) :: members) ((id, state) :: saved)

theorem mapM_ofMember?_eq_some_iff {members : List (String × Value)}
    {saved : List (String × SavedState)} :
    members.mapM ofMember? = some saved ↔ Denote members saved := by
  constructor
  · intro read
    induction members generalizing saved with
    | nil =>
        cases read
        exact .nil
    | cons member members ih =>
        rw [List.mapM_cons] at read
        obtain ⟨entry, first, read⟩ := Option.bind_eq_some_iff.mp read
        obtain ⟨rest, others, read⟩ := Option.bind_eq_some_iff.mp read
        obtain ⟨state, found, rfl⟩ := Option.map_eq_some_iff.mp first
        cases read
        exact .cons (SavedState.ofValue?_eq_some_iff.mp found) (ih others)
  · intro denote
    induction denote with
    | nil => rfl
    | cons denotes _ ih =>
        simp [ofMember?, SavedState.ofValue?_eq_some_iff.mpr denotes, ih]

theorem ofValue?_eq_some_iff :
    ofValue? value = some states ↔ ∃ members saved, value = .object members ∧
      Denote members saved ∧ states = Table.ofList saved := by
  cases value with
  | object members =>
      simp only [ofValue?, Option.map_eq_some_iff, mapM_ofMember?_eq_some_iff]
      constructor
      · rintro ⟨saved, denote, rfl⟩
        exact ⟨members, saved, rfl, denote, rfl⟩
      · rintro ⟨_, saved, ⟨⟩, denote, rfl⟩
        exact ⟨saved, denote, rfl⟩
  | null | bool | number | string | array => simp [ofValue?]

theorem toText_inj (same : states.toText = other.toText) : states = other := by
  have read := congrArg ofText? same
  rw [ofText?_toText, ofText?_toText] at read
  exact Option.some.inj read

/-- `ofText?` gives back every table of states from its text, and two tables have the same text only
if they are the same: the text depends on the state last put under each id alone.  The texts that
`ofText?` reads are the objects whose values denote states, and what it reads from one has a text of
its own that is read as the same. -/
theorem ofText?_toText_exact :
    (∀ states : SavedStates, ofText? states.toText = some states) ∧
    (∀ saved others : List (String × SavedState),
      toText (Table.ofList saved) = toText (Table.ofList others) ↔
        ∀ id, Entries.lookup id saved.reverse = Entries.lookup id others.reverse) ∧
    (∀ states others : SavedStates, states.toText = others.toText → states = others) ∧
    (∀ (text : String) (states : SavedStates), ofText? text = some states ↔
      ∃ members saved, Value.ofText? text = some (.object members) ∧ Denote members saved ∧
        states = Table.ofList saved) ∧
    (∀ (text : String) (states : SavedStates), ofText? text = some states →
      ofText? states.toText = some states) := by
  refine ⟨ofText?_toText, fun saved others => ?_, fun _ _ => toText_inj, fun text states => ?_,
    fun _ states _ => ofText?_toText states⟩
  · constructor
    · intro same id
      rw [← Table.get?_ofList_eq_lookup_reverse, toText_inj same, Table.get?_ofList_eq_lookup_reverse]
    · intro same
      refine congrArg toText (Table.ext_get? fun id => ?_)
      rw [Table.get?_ofList_eq_lookup_reverse, same, Table.get?_ofList_eq_lookup_reverse]
  · unfold ofText?
    cases Value.ofText? text with
    | none => simp
    | some value => simp only [Option.bind_some, ofValue?_eq_some_iff, Option.some.injEq]

/-- A list, a state that is replaced, and one with its name in the middle and another member. -/
example : ofText? ("\x7b\"a\": [\"running\", 5, -6], \"b\": \x7b\"state\": \"idle\"\x7d, " ++
      "\"b\": \x7b\"seen\": 1.5, \"remaining_ms\": 7, \"state\": \"deactivating\", " ++
      "\"previous_sync_ms\": 0\x7d\x7d") =
    some (Table.ofList [("a", .running ⟨5, -6, by decide, by decide⟩),
      ("b", .deactivating ⟨7, 0, by decide, by decide⟩)]) := by
  decide +kernel

end SavedStates

end Curfew
