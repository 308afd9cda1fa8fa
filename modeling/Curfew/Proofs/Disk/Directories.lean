import Curfew.Proofs.Disk.Step

namespace Curfew.Disk

/-! What changes on a disk when a directory is made, with all that are missing above it. -/

variable {disk before between after : Disk} {location : Location} {path target directory key : String}

/-- The path leads to the location that is kept under a key. -/
def LeadsTo (disk : Disk) (path key : String) : Prop :=
  ∃ location, disk.followPath path = .ok location ∧ location.text = key

theorem Extends.leadsTo (more : Extends before after) (leads : before.LeadsTo path key) :
    after.LeadsTo path key := by
  obtain ⟨location, followed, here⟩ := leads
  exact ⟨location, more.followPath followed, here⟩

/-- A directory that is needed for the path is where there was nothing. -/
structure MadeFor (path : String) (before after : Disk) (key : String) : Prop where
  missing : before.entries.get? key = none
  made : after.entries.get? key = some .directory
  needed : ∃ directory ∈ Path.ancestors path, after.LeadsTo directory key

/-- Directories have been made for the path, and nothing else has changed. -/
structure Paved (path : String) (before after : Disk) : Prop where
  entries (key : String) :
    after.entries.get? key = before.entries.get? key ∨ MadeFor path before after key
  workingDirectory : after.workingDirectory = before.workingDirectory

theorem MadeFor.of_sameDirectories (madeFor : MadeFor path before between key)
    (same : SameDirectories between after) : MadeFor path before after key where
  missing := madeFor.missing
  made := (same.directory key).mpr madeFor.made
  needed := by
    obtain ⟨directory, member, leads⟩ := madeFor.needed
    exact ⟨directory, member, same.toExtends.leadsTo leads⟩

/-- A path to a name in a directory leads to a directory made for it only if there is a '..' in it.
-/
theorem MadeFor.goes_up {name : String} (madeFor : MadeFor path before after location.text)
    (names : Path.names target = Path.names path ++ [name])
    (absolute : Path.isAbsolute path = Path.isAbsolute target) (some : name ≠ "")
    (followed : after.followPath target = .ok location) : ".." ∈ Path.names target := by
  refine Decidable.byContradiction fun straight => ?_
  obtain ⟨directory, member, above, needed, same⟩ := madeFor.needed
  obtain ⟨⟨rest, first⟩, alike⟩ := Path.names_of_mem_ancestors member
  rw [← first, List.append_assoc] at names
  have straightAbove : ".." ∉ Path.names directory := fun up =>
    straight (names ▸ List.mem_append_left _ up)
  have start : after.startOf directory = after.startOf target := by
    rw [startOf, startOf, alike, absolute]
  have whole := eq_append_of_follow straight (followPath_eq_ok_iff.mp followed).2
  have front := eq_append_of_follow straightAbove (followPath_eq_ok_iff.mp needed).2
  rw [names, ← start, ← List.append_assoc, ← List.append_assoc, ← front] at whole
  rw [whole] at same
  exact Location.text_ne_of_below above rest some same.symm

namespace Paved

theorem refl (path : String) (disk : Disk) : Paved path disk disk := ⟨fun _ => .inl rfl, rfl⟩

theorem toExtends (paved : Paved path before after) : Extends before after where
  directory location found := by
    cases location with
    | nil => rfl
    | cons first rest =>
        have found : before.entries.get? _ = some .directory := found
        change after.entries.get? _ = some .directory
        rcases paved.entries (Location.text (first :: rest)) with same | madeFor
        · rw [same, found]
        · exact madeFor.made
  workingDirectory := paved.workingDirectory

theorem makeDirectory (paved : Paved path before between) (member : directory ∈ Path.ancestors path)
    (made : between.makeDirectory directory = .ok after) : Paved path before after := by
  obtain ⟨location, followed, ⟨_, rfl⟩ | ⟨missing, rfl⟩⟩ := makeDirectory_eq_ok made
  · exact paved
  have below : location ≠ [] := by
    rintro rfl
    cases missing
  have more := extends_put_directory between location
  rw [entry?_of_ne_nil _ below] at missing
  have placed (key : String) : (between.put location .directory).entries.get? key =
      if location.text = key then some .directory else between.entries.get? key :=
    Table.get?_insert ..
  refine ⟨fun key => ?_, paved.workingDirectory⟩
  rw [placed]
  split
  · rename_i here
    subst here
    rcases paved.entries location.text with same | madeFor
    · refine .inr ⟨same ▸ missing, ?_, directory, member, location, more.followPath followed, rfl⟩
      rw [placed, if_pos rfl]
    · rw [madeFor.made] at missing
      contradiction
  · rename_i elsewhere
    refine (paved.entries key).imp_right fun madeFor => ⟨madeFor.missing, ?_, ?_⟩
    · rw [placed, if_neg elsewhere]
      exact madeFor.made
    · obtain ⟨needed, memberToo, leads⟩ := madeFor.needed
      exact ⟨needed, memberToo, more.leadsTo leads⟩

end Paved

/-- Any number of the `directorySteps`, under any fault, only make directories for the path. -/
theorem paved_directorySteps (fault : Option Fault) (disk : Disk) (path : String) :
    Paved path disk (runSteps fault disk (disk.directorySteps path)).1 := by
  have steps {entry : String × Step} (member : entry ∈ disk.directorySteps path) :
      ∃ directory ∈ Path.ancestors path, entry = (path, .makeDirectory directory) := by
    obtain ⟨directory, needed, rfl⟩ := List.mem_map.mp member
    exact ⟨directory, List.mem_of_mem_take (List.mem_reverse.mp needed), rfl⟩
  refine runSteps_keeps (Paved path disk) ?_ ?_ (.refl path disk)
  · intro entry member between next paved ran
    obtain ⟨directory, needed, rfl⟩ := steps member
    exact paved.makeDirectory needed ran
  · intro entry member between written paved
    obtain ⟨directory, needed, rfl⟩ := steps member
    exact paved

end Curfew.Disk
