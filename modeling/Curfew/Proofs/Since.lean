namespace Curfew

/-! What has happened since the first and since the last occurrence of something. -/

variable {α β : Type}

/-- The first item on which `f` gives something, and the items after it. -/
def sinceFirst? (f : α → Option β) : List α → Option (β × List α)
  | [] => none
  | item :: rest =>
      match f item with
      | some found => some (found, rest)
      | none => sinceFirst? f rest

def sinceLast? (f : α → Option β) : List α → Option (β × List α)
  | [] => none
  | item :: rest =>
      match sinceLast? f rest with
      | some found => some found
      | none => (f item).map fun found => (found, rest)

theorem sinceFirst?_concat (f : α → Option β) (before : List α) (item : α) :
    sinceFirst? f (before ++ [item]) =
      match sinceFirst? f before with
      | some (found, rest) => some (found, rest ++ [item])
      | none => (f item).map fun found => (found, []) := by
  induction before with
  | nil => cases found : f item <;> simp [sinceFirst?, found]
  | cons head tail ih => cases found : f head <;> simp [sinceFirst?, found, ih]

theorem sinceLast?_concat (f : α → Option β) (before : List α) (item : α) :
    sinceLast? f (before ++ [item]) =
      match f item with
      | some found => some (found, [])
      | none => (sinceLast? f before).map fun (found, rest) => (found, rest ++ [item]) := by
  induction before with
  | nil => cases found : f item <;> simp [sinceLast?, found]
  | cons head tail ih =>
      cases found : f item with
      | some value => simp [sinceLast?, ih, found]
      | none =>
          cases earlier : sinceLast? f tail with
          | some pair => simp [sinceLast?, ih, found, earlier]
          | none => cases first : f head <;> simp [sinceLast?, ih, found, earlier, first]

end Curfew
