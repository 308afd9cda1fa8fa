import Curfew.Disk.Tree
import Curfew.Proofs.Path
import Curfew.Proofs.Table

namespace Curfew

/-! What is found on a disk after a change, and where paths lead then. -/

namespace Location

variable {location above : Location} {name other ending : String}

theorem text_concat (above : Location) (name : String) :
    text (above ++ [name]) = (if above = [] then "/" else text above ++ "/") ++ name := by
  unfold text
  split
  · rename_i root
    simp [root]
  · rename_i below
    rw [String.intercalate_append_of_ne_nil below (by simp)]
    simp [String.append_assoc]

theorem length_text_le (above more : Location) :
    (text above).length ≤ (text (above ++ more)).length := by
  induction more generalizing above with
  | nil => simp
  | cons name rest ih =>
      have one : (text above).length ≤ (text (above ++ [name])).length := by
        rw [text_concat]
        split
        · rename_i root
          simp [root, text]
        · simp only [String.length_append]
          omega
      rw [List.append_cons]
      exact Nat.le_trans one (ih _)

theorem text_ne_of_below (above more : Location) (some : name ≠ "") :
    text (above ++ more ++ [name]) ≠ text above := by
  intro same
  have lengths := congrArg String.length same
  have least := length_text_le above more
  have longer : 0 < name.length := Nat.pos_of_ne_zero (mt String.length_eq_zero_iff.mp some)
  rw [text_concat, String.length_append] at lengths
  split at lengths
  · rename_i root
    obtain ⟨rfl, rfl⟩ := List.append_eq_nil_iff.mp root
    exact some (by simpa [text] using lengths)
  · simp only [String.length_append] at lengths
    omega

theorem text_concat_inj (same : text (above ++ [name]) = text (above ++ [other])) :
    name = other := by
  rw [text_concat, text_concat, String.append_right_inj] at same
  exact same

theorem beside_concat (above : Location) (name ending : String) :
    beside (above ++ [name]) ending = above ++ [name ++ ending] := by
  simp [beside]

theorem beside_ne_nil (below : location ≠ []) (ending : String) :
    location.beside ending ≠ [] := by
  obtain ⟨above, name, rfl⟩ := List.eq_nil_or_concat location |>.resolve_left below
  simp [beside]

theorem text_beside_ne (below : location ≠ []) (some : ending ≠ "") :
    (location.beside ending).text ≠ location.text := by
  obtain ⟨above, name, rfl⟩ := List.eq_nil_or_concat location |>.resolve_left below
  rw [List.concat_eq_append, beside_concat]
  intro same
  have longer := congrArg String.length (text_concat_inj same)
  rw [String.length_append] at longer
  exact some (String.length_eq_zero_iff.mp (by omega))

theorem text_beside_inj (below : location ≠ [])
    (same : (location.beside ending).text = (location.beside other).text) : ending = other := by
  obtain ⟨above, name, rfl⟩ := List.eq_nil_or_concat location |>.resolve_left below
  rw [List.concat_eq_append, beside_concat, beside_concat] at same
  exact (String.append_right_inj _).mp (text_concat_inj same)

end Location

/-- The path passes the checks that precede any lookup: it is not empty, has no zero byte and is not
too long. -/
def Path.Followable (path : String) : Prop :=
  path ≠ "" ∧ '\x00' ∉ path.toList ∧ path.utf8ByteSize ≤ Path.maxWidth

instance (path : String) : Decidable (Path.Followable path) :=
  inferInstanceAs (Decidable (_ ∧ _ ∧ _))

namespace Disk

variable {disk before after : Disk} {location other : Location} {path name directory : String}

theorem entry?_of_ne_nil (disk : Disk) (below : location ≠ []) :
    disk.entry? location = disk.entries.get? location.text := by
  cases location with
  | nil => contradiction
  | cons => rfl

theorem entry?_put_self (disk : Disk) (below : location ≠ []) (entry : Entry) :
    Disk.entry? (disk.put location entry) location = some entry := by
  rw [entry?_of_ne_nil _ below]
  exact Table.get?_insert_self ..

theorem follow_cons_eq_ok_iff {start : Location} {rest : List String} :
    disk.follow start (name :: rest) = .ok location ↔
      if name = ".." then disk.follow start.dropLast rest = .ok location
      else name.utf8ByteSize ≤ Path.maxNameWidth ∧
        if rest = [] then start ++ [name] = location
        else disk.entry? (start ++ [name]) = some .directory ∧
          disk.follow (start ++ [name]) rest = .ok location := by
  rw [follow]
  by_cases up : name = ".."
  · simp [up]
  · rw [if_neg up, if_neg up]
    by_cases long : name.utf8ByteSize > Path.maxNameWidth
    · rw [if_pos long]
      simp [Nat.not_le.mpr long]
    · rw [if_neg long]
      cases rest with
      | nil => simp [Nat.not_lt.mp long]
      | cons next further =>
          simp only [List.isEmpty_cons, Bool.false_eq_true, if_false, Nat.not_lt.mp long,
            true_and, reduceCtorEq]
          cases found : disk.entry? (start ++ [name]) with
          | none => simp
          | some entry => cases entry <;> simp

theorem follow_concat {start : Location} {names : List String}
    (followed : disk.follow start names = .ok location)
    (isDirectory : names = [] ∨ disk.entry? location = some .directory)
    (notAbove : name ≠ "..") (short : name.utf8ByteSize ≤ Path.maxNameWidth) :
    disk.follow start (names ++ [name]) = .ok (location ++ [name]) := by
  induction names generalizing start with
  | nil =>
      cases followed
      rw [List.nil_append, follow_cons_eq_ok_iff, if_neg notAbove]
      simp [short]
  | cons first rest ih =>
      rw [follow_cons_eq_ok_iff] at followed
      rw [List.cons_append, follow_cons_eq_ok_iff]
      have here : disk.entry? location = some .directory := by simpa using isDirectory
      split
      · rename_i up
        rw [if_pos up] at followed
        exact ih followed (.inr here)
      · rename_i down
        rw [if_neg down] at followed
        obtain ⟨fits, followed⟩ := followed
        refine ⟨fits, ?_⟩
        rw [if_neg (by simp)]
        cases rest with
        | nil =>
            rw [if_pos rfl] at followed
            subst followed
            exact ⟨here, ih rfl (.inl rfl)⟩
        | cons second further =>
            rw [if_neg (by simp)] at followed
            exact ⟨followed.1, ih followed.2 (.inr here)⟩

theorem exists_of_follow_concat {start : Location} {names : List String}
    (followed : disk.follow start (names ++ [name]) = .ok location) (notAbove : name ≠ "..") :
    ∃ above, disk.follow start names = .ok above ∧ location = above ++ [name] := by
  induction names generalizing start with
  | nil =>
      rw [List.nil_append, follow_cons_eq_ok_iff, if_neg notAbove, if_pos rfl] at followed
      exact ⟨start, rfl, followed.2.symm⟩
  | cons first rest ih =>
      rw [List.cons_append, follow_cons_eq_ok_iff] at followed
      split at followed
      · rename_i up
        obtain ⟨above, led, rfl⟩ := ih followed
        exact ⟨above, follow_cons_eq_ok_iff.mpr (by rwa [if_pos up]), rfl⟩
      · rename_i down
        rw [if_neg (by simp)] at followed
        obtain ⟨fits, here, followed⟩ := followed
        obtain ⟨above, led, rfl⟩ := ih followed
        refine ⟨above, follow_cons_eq_ok_iff.mpr ?_, rfl⟩
        rw [if_neg down]
        refine ⟨fits, ?_⟩
        split
        · rename_i last
          subst last
          exact Except.ok.inj led
        · exact ⟨here, led⟩

/-- Names among which there is no '..' lead where they say. -/
theorem eq_append_of_follow {start : Location} {names : List String} (straight : ".." ∉ names)
    (followed : disk.follow start names = .ok location) : location = start ++ names := by
  induction names generalizing start with
  | nil => simpa using (Except.ok.inj followed).symm
  | cons name rest ih =>
      obtain ⟨down, straight⟩ := not_or.mp (mt List.mem_cons.mpr straight)
      rw [follow_cons_eq_ok_iff, if_neg (Ne.symm down)] at followed
      split at followed
      · rename_i last
        rw [last]
        exact followed.2.symm
      · rw [ih straight followed.2.2, List.append_assoc, List.singleton_append]

theorem short_of_follow_concat {start : Location} {names : List String}
    (followed : disk.follow start (names ++ [name]) = .ok location) (notAbove : name ≠ "..") :
    name.utf8ByteSize ≤ Path.maxNameWidth := by
  induction names generalizing start with
  | nil =>
      rw [List.nil_append, follow_cons_eq_ok_iff, if_neg notAbove] at followed
      exact followed.1
  | cons first rest ih =>
      rw [List.cons_append, follow_cons_eq_ok_iff] at followed
      split at followed
      · exact ih followed
      · rw [if_neg (by simp)] at followed
        exact ih followed.2.2

/-- More directories do not change where names lead. -/
theorem follow_of_directories
    (more : ∀ location, before.entry? location = some .directory →
      after.entry? location = some .directory) {start : Location} {names : List String}
    (followed : before.follow start names = .ok location) :
    after.follow start names = .ok location := by
  induction names generalizing start with
  | nil => exact followed
  | cons name rest ih =>
      rw [follow_cons_eq_ok_iff] at followed ⊢
      split
      · rename_i up
        rw [if_pos up] at followed
        exact ih followed
      · rename_i down
        rw [if_neg down] at followed
        refine ⟨followed.1, ?_⟩
        split
        · rename_i last
          simpa [last] using followed.2
        · rename_i notLast
          rw [if_neg notLast] at followed
          exact ⟨more _ followed.2.1, ih followed.2.2⟩

/-- All directories are still there, and relative paths start where they did. -/
structure Extends (before after : Disk) : Prop where
  directory (location : Location) (found : before.entry? location = some .directory) :
    after.entry? location = some .directory
  workingDirectory : after.workingDirectory = before.workingDirectory

theorem Extends.trans {between : Disk} (first : Extends before between)
    (second : Extends between after) : Extends before after :=
  ⟨fun location found => second.directory location (first.directory location found),
    second.workingDirectory.trans first.workingDirectory⟩

/-- Both disks have the same directories, and relative paths start at the same one. -/
structure SameDirectories (before after : Disk) : Prop where
  directory (key : String) :
    after.entries.get? key = some .directory ↔ before.entries.get? key = some .directory
  workingDirectory : after.workingDirectory = before.workingDirectory

namespace SameDirectories

theorem refl (disk : Disk) : SameDirectories disk disk := ⟨fun _ => .rfl, rfl⟩

theorem trans {between : Disk} (first : SameDirectories before between)
    (second : SameDirectories between after) : SameDirectories before after :=
  ⟨fun key => (second.directory key).trans (first.directory key),
    second.workingDirectory.trans first.workingDirectory⟩

theorem entry? (same : SameDirectories before after) (location : Location) :
    after.entry? location = some .directory ↔ before.entry? location = some .directory := by
  cases location with
  | nil => exact .rfl
  | cons => exact same.directory _

/-- Where names lead to does not depend on anything but directories. -/
theorem follow (same : SameDirectories before after) (start : Location) (names : List String) :
    after.follow start names = .ok location ↔ before.follow start names = .ok location :=
  ⟨follow_of_directories fun location => (same.entry? location).mp,
    follow_of_directories fun location => (same.entry? location).mpr⟩

theorem toExtends (same : SameDirectories before after) : Extends before after :=
  ⟨fun location => (same.entry? location).mpr, same.workingDirectory⟩

theorem symm (same : SameDirectories before after) : SameDirectories after before :=
  ⟨fun key => (same.directory key).symm, same.workingDirectory.symm⟩

end SameDirectories

/-- The location from which the names of a path are followed. -/
def startOf (disk : Disk) (path : String) : Location :=
  if Path.isAbsolute path then [] else disk.workingDirectory

theorem followPath_eq_ok_iff :
    disk.followPath path = .ok location ↔
      Path.Followable path ∧ disk.follow (disk.startOf path) (Path.names path) = .ok location := by
  unfold followPath Path.Followable
  split
  · rename_i empty
    simp_all
  · rename_i some
    split
    · rename_i impossible
      simp only [reduceCtorEq, false_iff, not_and]
      rintro ⟨_, clean, fits⟩
      simp [clean, Nat.not_lt.mpr fits] at impossible
    · rename_i possible
      simp only [startOf, iff_and_self]
      intro _
      simpa [not_or] using And.intro some possible

theorem locate_eq_ok_iff :
    disk.locate path = .ok location ↔
      disk.followPath path = .ok location ∧
        (Path.namesDirectory path = true → disk.entry? location = some .directory) := by
  unfold locate
  cases followed : disk.followPath path with
  | error reason => simp [bind, Except.bind]
  | ok found =>
      cases Path.namesDirectory path with
      | false => simp [bind, Except.bind, pure, Except.pure]
      | true =>
          simp only [bind, Except.bind, if_true, Except.ok.injEq, forall_const]
          split
          · rename_i here
            simp only [pure, Except.pure, Except.ok.injEq, iff_self_and]
            rintro rfl
            exact here
          all_goals
            rename_i here
            simp only [throw, throwThe, MonadExceptOf.throw, reduceCtorEq, false_iff, not_and]
            rintro rfl
            simp [here]

theorem exists_of_followPath {front : List String} (names : Path.names path = front ++ [name])
    (notAbove : name ≠ "..") (followed : disk.followPath path = .ok location) :
    ∃ above, disk.follow (disk.startOf path) front = .ok above ∧ location = above ++ [name] := by
  have followed := (followPath_eq_ok_iff.mp followed).2
  rw [names] at followed
  exact exists_of_follow_concat followed notAbove

theorem readText_of_located {number : Nat} {text : String}
    (located : disk.locate path = .ok location)
    (found : disk.entry? location = some (.file number (.text text))) :
    disk.readText path = .ok text := by
  simp [readText, located, found, bind, Except.bind, pure, Except.pure]

namespace Extends

/-- What a path leads to it leads to as well when there are more directories. -/
theorem followPath (more : Extends before after) (followed : before.followPath path = .ok location) :
    after.followPath path = .ok location := by
  obtain ⟨followable, followed⟩ := followPath_eq_ok_iff.mp followed
  have start : after.startOf path = before.startOf path := by
    rw [startOf, startOf, more.workingDirectory]
  refine followPath_eq_ok_iff.mpr ⟨followable, ?_⟩
  rw [start]
  exact follow_of_directories more.directory followed

theorem locate (more : Extends before after) (located : before.locate path = .ok location) :
    after.locate path = .ok location := by
  obtain ⟨followed, whole⟩ := locate_eq_ok_iff.mp located
  exact locate_eq_ok_iff.mpr
    ⟨more.followPath followed, fun ends => more.directory _ (whole ends)⟩

end Extends

/-- Every entry lies in a directory, up to the root. -/
def Rooted (disk : Disk) : Prop :=
  ∀ (above : Location) (name : String), disk.entry? (above ++ [name]) ≠ none →
    disk.entry? above = some .directory

namespace Rooted

theorem directory_above (rooted : disk.Rooted) {above more : Location} (below : more ≠ [])
    (found : disk.entry? (above ++ more) ≠ none) : disk.entry? above = some .directory := by
  induction more generalizing above with
  | nil => contradiction
  | cons name rest ih =>
      refine rooted above name ?_
      rw [List.append_cons] at found
      by_cases last : rest = []
      · simpa [last] using found
      · simp [ih last found]

/-- A file or directory that names would lead to if there were more directories, they lead to. -/
theorem follow (rooted : before.Rooted) {start : Location} {names : List String}
    (straight : ".." ∉ names) (followed : after.follow start names = .ok location)
    (found : before.entry? location ≠ none) : before.follow start names = .ok location := by
  induction names generalizing start with
  | nil => exact followed
  | cons name rest ih =>
      obtain ⟨down, further⟩ := not_or.mp (mt List.mem_cons.mpr straight)
      rw [follow_cons_eq_ok_iff, if_neg (Ne.symm down)] at followed ⊢
      refine ⟨followed.1, ?_⟩
      split
      · rename_i last
        rw [if_pos last] at followed
        exact followed.2
      · rename_i more
        rw [if_neg more] at followed
        refine ⟨?_, ih further followed.2.2⟩
        rw [eq_append_of_follow further followed.2.2] at found
        exact rooted.directory_above more found

theorem locate (rooted : before.Rooted) (start : after.workingDirectory = before.workingDirectory)
    (straight : ".." ∉ Path.names path) (located : after.locate path = .ok location)
    (found : before.entry? location = after.entry? location)
    (some : before.entry? location ≠ none) : before.locate path = .ok location := by
  obtain ⟨followed, whole⟩ := locate_eq_ok_iff.mp located
  obtain ⟨followable, followed⟩ := followPath_eq_ok_iff.mp followed
  rw [startOf, start] at followed
  refine locate_eq_ok_iff.mpr ⟨followPath_eq_ok_iff.mpr ⟨followable, ?_⟩, fun ends => ?_⟩
  · exact rooted.follow straight followed some
  · rw [found, whole ends]

end Rooted

/-- The path leads to a directory, or is empty and stands for the one it starts at. -/
structure Reaches (disk : Disk) (path : String) (location : Location) : Prop where
  followed : disk.follow (disk.startOf path) (Path.names path) = .ok location
  isDirectory : path = "" ∨ disk.entry? location = some .directory

namespace Reaches

theorem of_sameDirectories (reaches : before.Reaches path location)
    (same : SameDirectories before after) : after.Reaches path location where
  followed := by
    have start : after.startOf path = before.startOf path := by
      rw [startOf, startOf, same.workingDirectory]
    rw [start, same.follow]
    exact reaches.followed
  isDirectory := reaches.isDirectory.imp_right (same.entry? _).mpr

/-- Other paths with the same names lead to the same directory. -/
theorem of_names {above : String} (reaches : disk.Reaches directory location)
    (names : Path.names above = Path.names directory)
    (absolute : Path.isAbsolute above = Path.isAbsolute directory)
    (empty : directory = "" → above = "") : disk.Reaches above location where
  followed := by
    rw [startOf, absolute, names]
    exact reaches.followed
  isDirectory := reaches.isDirectory.imp_left empty

theorem locate_join_iff (reaches : disk.Reaches directory location) (usable : Path.IsName name)
    (short : name.utf8ByteSize ≤ Path.maxNameWidth) :
    disk.locate (Path.join directory name) = .ok other ↔
      Path.Followable (Path.join directory name) ∧ other = location ++ [name] := by
  have start : disk.startOf (Path.join directory name) = disk.startOf directory := by
    rw [startOf, startOf, Path.isAbsolute_join directory usable]
  have isDirectory : Path.names directory = [] ∨ disk.entry? location = some .directory :=
    reaches.isDirectory.imp_left fun empty => by rw [empty, Path.names_empty]
  have followed := follow_concat reaches.followed isDirectory usable.2.2 short
  rw [locate_eq_ok_iff, followPath_eq_ok_iff, start, Path.names_join directory usable, followed,
    Path.namesDirectory_join directory usable]
  simp [eq_comm]

end Reaches

end Disk

end Curfew
