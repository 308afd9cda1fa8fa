import Curfew.Time.Weekday

namespace Curfew

/-! The days of a rule as they are written in a configuration. -/

inductive DaySpec where
  | preset (name : String)
  | list (names : List String)
deriving DecidableEq, Repr

inductive DaySpecError where
  | unknownPreset (name : String)
  | unknownDay (name : String)
deriving DecidableEq, Repr

def DaySpecError.message : DaySpecError → String
  | .unknownPreset name => s!"Unknown day preset: {name}"
  | .unknownDay name => s!"Unknown day: {name}"

namespace DaySpec

/-- Presets are read in any letter case. -/
def ofPreset (name : String) : Except DaySpecError WeekdaySet :=
  let lowered := String.ofList (Text.lowercase name.toList)
  if lowered = "all" ∨ lowered = "every" ∨ lowered = "daily" then .ok .all
  else if lowered = "weekdays" then .ok .weekdays
  else if lowered = "weekends" then .ok .weekends
  else .error (.unknownPreset lowered)

/-- The first unknown name is reported. -/
def ofNames : List String → Except DaySpecError (List Weekday)
  | [] => .ok []
  | name :: rest =>
      match Weekday.ofName? name with
      | none => .error (.unknownDay name)
      | some day => (ofNames rest).map (day :: ·)

def resolve : DaySpec → Except DaySpecError WeekdaySet
  | .preset name => ofPreset name
  | .list names => (ofNames names).map WeekdaySet.ofList

end DaySpec

end Curfew
