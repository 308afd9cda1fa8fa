import Curfew.Json.Record
import Curfew.Protector.Saved

namespace Curfew

/-! Saved states as JSON: an object from rule ids to states.  A state is an object with
its name under `state` and, for a countdown, the two counts; other members are ignored.
It may also be written as a list that begins with the name. -/

namespace SavedCountdown

def ofInts? (remaining previous : Int) : Option SavedCountdown :=
  match remaining with
  | .ofNat remaining =>
      if fits : remaining < 18446744073709551616 ∧ -9223372036854775808 ≤ previous ∧
          previous < 9223372036854775808 then
        some ⟨remaining, previous, fits.1, fits.2⟩
      else none
  | .negSucc _ => none

def ofValues? : Json.Value → Json.Value → Option SavedCountdown
  | .number (.integer remaining), .number (.integer previous) => ofInts? remaining previous
  | _, _ => none

end SavedCountdown

namespace SavedState

open Json (Value)

def countdownValue (name : String) (countdown : SavedCountdown) : Value :=
  .object
    [("previous_sync_ms", Json.integer countdown.previous),
      ("remaining_ms", Json.natural countdown.remaining),
      ("state", .string name)]

def toValue (state : SavedState) : Value :=
  match state with
  | .running countdown | .deactivating countdown => countdownValue state.name countdown
  | _ => .object [("state", .string state.name)]

/-- The values of a key among the members. -/
def valuesOf (name : String) (members : List (String × Value)) : List Value :=
  (members.filter fun member => member.1 == name).map Prod.snd

/-- A state that counts down, from its members. -/
def countdownOf? (members : List (String × Value)) : Option SavedCountdown :=
  match valuesOf "remaining_ms" members, valuesOf "previous_sync_ms" members with
  | [remaining], [previous] => SavedCountdown.ofValues? remaining previous
  | _, _ => none

def ofMembers? (members : List (String × Value)) : Option SavedState :=
  match valuesOf "state" members with
  | [.string "idle"] => some .idle
  | [.string "running"] => (countdownOf? members).map .running
  | [.string "activated"] => some .activated
  | [.string "deactivating"] => (countdownOf? members).map .deactivating
  | [.string "deactivated"] => some .deactivated
  | _ => none

def ofItems? : List Value → Option SavedState
  | [.string "idle"] => some .idle
  | [.string "running", remaining, previous] =>
      (SavedCountdown.ofValues? remaining previous).map .running
  | [.string "activated"] => some .activated
  | [.string "deactivating", remaining, previous] =>
      (SavedCountdown.ofValues? remaining previous).map .deactivating
  | [.string "deactivated"] => some .deactivated
  | _ => none

def ofValue? : Value → Option SavedState
  | .object members => ofMembers? members
  | .array items => ofItems? items
  | _ => none

def ofText? (text : String) : Option SavedState :=
  (Value.ofText? text).bind ofValue?

end SavedState

namespace SavedStates

open Json (Value)

def toValue (states : SavedStates) : Value :=
  .object (states.map fun _ state => state.toValue).entries

def toText (states : SavedStates) : String :=
  (toValue states).text

def ofMember? (entry : String × Value) : Option (String × SavedState) :=
  (SavedState.ofValue? entry.2).map fun state => (entry.1, state)

/-- Of states saved under one id the last one counts. -/
def ofValue? : Value → Option SavedStates
  | .object members => (members.mapM ofMember?).map Table.ofList
  | _ => none

def ofText? (text : String) : Option SavedStates :=
  (Value.ofText? text).bind ofValue?

end SavedStates

end Curfew
