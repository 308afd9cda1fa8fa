import Curfew.Path
import Curfew.Proofs.Text.Pieces

namespace Curfew

/-! Paths: a name put below a directory, and the directory and the name read off again. -/

namespace Path

variable {path name directory : String} {parts : List String}

/-- A name that a file can have, apart from its length. -/
def IsName (name : String) : Prop :=
  '/' ∉ name.toList ∧ isIdle name = false ∧ name ≠ ".."

instance (name : String) : Decidable (IsName name) :=
  inferInstanceAs (Decidable (_ ∧ _ ∧ _))

theorem partsOf_ne_nil (path : String) : partsOf path ≠ [] := by
  simpa [partsOf] using Text.pieces_ne_nil '/' path.toList

theorem partsOf_append (left right : String) :
    partsOf (left ++ "/" ++ right) = partsOf left ++ partsOf right := by
  have cut : (left ++ "/" ++ right).toList = left.toList ++ '/' :: right.toList := by simp
  rw [partsOf, cut, Text.pieces_append, List.map_append]
  rfl

theorem partsOf_of_not_mem (unmarked : '/' ∉ name.toList) : partsOf name = [name] := by
  rw [partsOf, Text.pieces_of_not_mem unmarked, List.map_singleton, String.ofList_toList]

theorem not_mem_of_mem_partsOf {part : String} (member : part ∈ partsOf path) :
    '/' ∉ part.toList := by
  obtain ⟨piece, found, rfl⟩ := List.mem_map.mp member
  simpa using Text.not_mem_of_mem_pieces found

theorem partsOf_intercalate (some : parts ≠ []) (unmarked : ∀ part ∈ parts, '/' ∉ part.toList) :
    partsOf ("/".intercalate parts) = parts := by
  have cut : Text.pieces '/' ("/".intercalate parts).toList = parts.map String.toList := by
    rw [String.toList_intercalate]
    refine Text.pieces_intercalate (by simpa using some) fun piece member => ?_
    obtain ⟨part, found, rfl⟩ := List.mem_map.mp member
    exact unmarked part found
  rw [partsOf, cut, List.map_map]
  simp [Function.comp_def]

theorem isAbsolute_iff : isAbsolute path = true ↔ ∃ rest, path.toList = '/' :: rest := by
  unfold isAbsolute
  rw [String.startsWith_string_iff]
  constructor
  · rintro ⟨rest, whole⟩
    exact ⟨rest, whole.symm⟩
  · rintro ⟨rest, whole⟩
    exact ⟨rest, whole.symm⟩

theorem isAbsolute_empty : isAbsolute "" = false := by
  simp [← Bool.not_eq_true, isAbsolute_iff]

theorem isAbsolute_slash : isAbsolute "/" = true := isAbsolute_iff.mpr ⟨[], rfl⟩

theorem isAbsolute_iff_partsOf :
    isAbsolute path = true ↔ ∃ others, others ≠ [] ∧ partsOf path = "" :: others := by
  rw [isAbsolute_iff]
  constructor
  · rintro ⟨rest, whole⟩
    refine ⟨(Text.pieces '/' rest).map String.ofList, ?_, ?_⟩
    · simpa using Text.pieces_ne_nil '/' rest
    · rw [partsOf, whole, Text.pieces, if_pos rfl]
      rfl
  · rintro ⟨others, some, shape⟩
    rw [partsOf] at shape
    cases whole : path.toList with
    | nil =>
        rw [whole] at shape
        exact absurd (List.cons.inj shape).2.symm some
    | cons c rest =>
        by_cases slash : c = '/'
        · exact ⟨rest, by rw [slash]⟩
        · obtain ⟨piece, further, inner⟩ :=
            List.exists_cons_of_ne_nil (Text.pieces_ne_nil '/' rest)
          rw [whole, Text.pieces, if_neg slash, inner, List.map_cons] at shape
          have empty := congrArg String.toList (List.cons.inj shape).1
          simp at empty

theorem filter_dropWhile_isIdle (parts : List String) :
    (parts.dropWhile isIdle).filter (fun part => !isIdle part) =
      parts.filter fun part => !isIdle part := by
  induction parts with
  | nil => rfl
  | cons part rest ih =>
      by_cases idle : isIdle part = true
      · simp [idle, ih]
      · simp [idle]

theorem filter_dropIdleEnd (parts : List String) :
    (dropIdleEnd parts).filter (fun part => !isIdle part) =
      parts.filter fun part => !isIdle part := by
  rw [dropIdleEnd, List.filter_reverse, filter_dropWhile_isIdle, List.filter_reverse,
    List.reverse_reverse]

theorem mem_of_mem_dropIdleEnd {part : String} (member : part ∈ dropIdleEnd parts) :
    part ∈ parts := by
  rw [dropIdleEnd, List.mem_reverse] at member
  exact List.mem_reverse.mp ((List.dropWhile_sublist _).subset member)

theorem dropIdleEnd_concat (before : List String) (busy : isIdle name = false) :
    dropIdleEnd (before ++ [name]) = before ++ [name] := by
  simp [dropIdleEnd, busy]

theorem names_eq {head : String} {others : List String} (shape : partsOf path = head :: others) :
    names path = (head :: dropIdleEnd others).filter fun part => !isIdle part := by
  rw [names, shape, List.filter_cons, List.filter_cons, filter_dropIdleEnd]

theorem headAndBody_eq {head : String} {others : List String}
    (shape : partsOf path = head :: others) : headAndBody path = (head, dropIdleEnd others) := by
  rw [headAndBody, shape]

theorem intercalate_eq_empty_iff {head : String} {others : List String} :
    "/".intercalate (head :: others) = "" ↔ head = "" ∧ others = [] := by
  cases others with
  | nil => simp
  | cons next rest =>
      constructor
      · intro empty
        have toList := congrArg String.toList empty
        simp [String.intercalate_cons_cons] at toList
      · rintro ⟨_, ⟨⟩⟩

theorem fileName?_eq_some (named : fileName? path = some name) :
    IsName name ∧ ∃ head others, partsOf path = head :: others ∧
      (dropIdleEnd others = [] ∧ head = name ∨
        ∃ middle, dropIdleEnd others = middle ++ [name]) := by
  obtain ⟨head, others, shape⟩ := List.exists_cons_of_ne_nil (partsOf_ne_nil path)
  simp only [fileName?, headAndBody_eq shape] at named
  split at named
  · contradiction
  rename_i usable
  simp only [Bool.or_eq_true, not_or, Bool.not_eq_true, beq_eq_false_iff_ne] at usable
  rw [Option.some.inj named] at usable
  have unmarked {part : String} (member : part ∈ head :: others) : '/' ∉ part.toList :=
    not_mem_of_mem_partsOf (show part ∈ partsOf path from shape ▸ member)
  rcases List.eq_nil_or_concat (dropIdleEnd others) with alone | ⟨middle, last, below⟩
  · rw [alone] at named
    obtain rfl : head = name := Option.some.inj named
    exact ⟨⟨unmarked (.head _), usable⟩, head, others, shape, .inl ⟨alone, rfl⟩⟩
  · rw [List.concat_eq_append] at below
    rw [below, List.getLast?_concat] at named
    obtain rfl : last = name := Option.some.inj named
    have member : last ∈ others := mem_of_mem_dropIdleEnd (by simp [below])
    exact ⟨⟨unmarked (.tail _ member), usable⟩, head, others, shape, .inr ⟨middle, below⟩⟩

theorem names_empty : names "" = [] := by decide

theorem names_slash : names "/" = [] := by decide

theorem parent?_of_fileName? (named : fileName? path = some name) :
    ∃ above, parent? path = some above ∧ names path = names above ++ [name] ∧
      isAbsolute above = isAbsolute path := by
  obtain ⟨⟨_, busy, _⟩, head, others, shape, alone | ⟨middle, below⟩⟩ := fileName?_eq_some named
  · obtain ⟨alone, rfl⟩ := alone
    have some : head ≠ "" := by
      rintro rfl
      contradiction
    refine ⟨"", by simp [parent?, headAndBody_eq shape, alone, some], ?_, ?_⟩
    · rw [names_eq shape, alone, names_empty]
      simp [busy]
    · rw [isAbsolute_empty, eq_comm, ← Bool.not_eq_true, isAbsolute_iff_partsOf]
      rintro ⟨_, _, same⟩
      exact some (List.cons.inj (shape.symm.trans same)).1
  · have namesAbove : names path =
        (head :: dropIdleEnd middle).filter (fun part => !isIdle part) ++ [name] := by
      rw [names_eq shape, below, List.filter_cons, List.filter_cons, List.filter_append,
        filter_dropIdleEnd]
      split <;> simp [busy]
    have absolute : isAbsolute path = true ↔ head = "" := by
      rw [isAbsolute_iff_partsOf, shape]
      refine ⟨fun ⟨_, _, same⟩ => (List.cons.inj same).1, fun empty => ⟨others, ?_, by rw [empty]⟩⟩
      rintro rfl
      simp [dropIdleEnd] at below
    have parent : parent? path = some
        (if "/".intercalate (head :: dropIdleEnd middle) = "" then "/"
          else "/".intercalate (head :: dropIdleEnd middle)) := by
      simp [parent?, headAndBody_eq shape, below]
    refine ⟨_, parent, ?_⟩
    rw [namesAbove]
    split
    · rename_i empty
      obtain ⟨rfl, nothing⟩ := intercalate_eq_empty_iff.mp empty
      refine ⟨by rw [nothing, names_slash]; rfl, ?_⟩
      rw [absolute.mpr rfl, isAbsolute_slash]
    · rename_i some
      have kept : ∀ part ∈ head :: dropIdleEnd middle, '/' ∉ part.toList := fun part member => by
        refine not_mem_of_mem_partsOf (show part ∈ partsOf path from shape ▸ ?_)
        rcases List.mem_cons.mp member with rfl | inMiddle
        · exact .head _
        · refine .tail _ (mem_of_mem_dropIdleEnd (below ▸ List.mem_append_left _ ?_))
          exact mem_of_mem_dropIdleEnd inMiddle
      have partsAbove := partsOf_intercalate (List.cons_ne_nil _ _) kept
      refine ⟨by rw [names, partsAbove], Bool.eq_iff_iff.mpr ?_⟩
      rw [absolute, isAbsolute_iff_partsOf, partsAbove]
      refine ⟨fun ⟨_, _, same⟩ => (List.cons.inj same).1, fun empty => ⟨_, ?_, by rw [empty]⟩⟩
      exact fun nothing => some (intercalate_eq_empty_iff.mpr ⟨empty, nothing⟩)

theorem exists_of_endsWith_slash (ends : path.endsWith "/" = true) :
    ∃ front, path = front ++ "/" := by
  have suffix : path.toSlice.endsWith "/" = true := ends
  rw [String.Slice.endsWith_string_iff] at suffix
  obtain ⟨front, whole⟩ := suffix
  refine ⟨String.ofList front, String.toList_inj.mp ?_⟩
  simpa using whole.symm

theorem isAbsolute_of_isName (usable : IsName name) : isAbsolute name = false := by
  refine Bool.eq_false_iff.mpr fun absolute => ?_
  obtain ⟨rest, whole⟩ := isAbsolute_iff.mp absolute
  exact usable.1 (whole ▸ .head _)

theorem partsOf_join (directory : String) (usable : IsName name) :
    ∃ before, partsOf (join directory name) = before ++ [name] ∧
      before.filter (fun part => !isIdle part) = names directory := by
  have alone := partsOf_of_not_mem usable.1
  simp only [join, isAbsolute_of_isName usable, Bool.false_eq_true, if_false]
  split
  · rename_i empty
    rcases Bool.or_eq_true_iff.mp empty with none | ends
    · obtain rfl : directory = "" := by simpa using none
      exact ⟨[], by simpa using alone, names_empty.symm⟩
    · obtain ⟨front, rfl⟩ := exists_of_endsWith_slash ends
      refine ⟨partsOf front, by rw [partsOf_append, alone], ?_⟩
      have behind : partsOf (front ++ "/" ++ "") = partsOf front ++ [""] := partsOf_append front ""
      rw [String.append_empty] at behind
      rw [names, behind]
      simp [isIdle]
  · exact ⟨partsOf directory, by rw [partsOf_append, alone], rfl⟩

theorem names_join (directory : String) (usable : IsName name) :
    names (join directory name) = names directory ++ [name] := by
  obtain ⟨before, shape, kept⟩ := partsOf_join directory usable
  rw [names, shape, List.filter_append, kept]
  simp [usable.2.1]

theorem fileName?_join (directory : String) (usable : IsName name) :
    fileName? (join directory name) = some name := by
  obtain ⟨before, shape, _⟩ := partsOf_join directory usable
  have busy := usable.2.1
  cases before with
  | nil => simp [fileName?, headAndBody_eq shape, dropIdleEnd, busy, usable.2.2]
  | cons head middle =>
      rw [List.cons_append] at shape
      simp [fileName?, headAndBody_eq shape, dropIdleEnd_concat middle busy, busy, usable.2.2]

theorem namesDirectory_join (directory : String) (usable : IsName name) :
    namesDirectory (join directory name) = false := by
  obtain ⟨before, shape, _⟩ := partsOf_join directory usable
  simp [namesDirectory, shape, usable.2.1]

theorem isAbsolute_join (directory : String) (usable : IsName name) :
    isAbsolute (join directory name) = isAbsolute directory := by
  have relative := isAbsolute_of_isName usable
  by_cases empty : directory = ""
  · subst empty
    rw [isAbsolute_empty, ← relative]
    simp [join, relative]
  · obtain ⟨c, rest, whole⟩ : ∃ c rest, directory.toList = c :: rest :=
      List.exists_cons_of_ne_nil (by simpa using empty)
    refine Bool.eq_iff_iff.mpr ?_
    rw [isAbsolute_iff, isAbsolute_iff]
    simp only [join, relative, Bool.false_eq_true, if_false]
    split <;> simp [whole]

/-- `parent?` of a path below a directory leads where the directory does. -/
theorem parent?_join (directory : String) (usable : IsName name) :
    ∃ above, parent? (join directory name) = some above ∧ names above = names directory ∧
      isAbsolute above = isAbsolute directory ∧ (directory = "" → above = "") := by
  obtain ⟨above, parent, together, absolute⟩ :=
    parent?_of_fileName? (fileName?_join directory usable)
  rw [names_join directory usable] at together
  rw [isAbsolute_join directory usable] at absolute
  refine ⟨above, parent, (List.append_inj_left' together rfl).symm, absolute, ?_⟩
  rintro rfl
  have alone : join "" name = name := by simp [join, isAbsolute_of_isName usable]
  have some : name ≠ "" := by
    rintro rfl
    exact absurd usable.2.1 (by decide)
  rw [alone] at parent
  simpa [parent?, headAndBody_eq (partsOf_of_not_mem usable.1), dropIdleEnd, some] using parent

theorem eq_of_partsOf_singleton {only : String} (shape : partsOf path = [only]) : path = only := by
  have whole := Text.intercalate_pieces '/' path.toList
  obtain ⟨piece, alone, same⟩ : ∃ piece, Text.pieces '/' path.toList = [piece] ∧
      String.ofList piece = only := by
    rw [partsOf, List.map_eq_singleton_iff] at shape
    exact shape
  rw [alone, List.intercalate_singleton] at whole
  rw [← String.ofList_toList (s := path), ← whole, same]

theorem eq_empty_of_parent?_join {directory : String} (usable : IsName name)
    (above : parent? (join directory name) = some "") : directory = "" := by
  obtain ⟨before, shape, _⟩ := partsOf_join directory usable
  cases before with
  | nil =>
      have alone := congrArg String.length (eq_of_partsOf_singleton shape)
      rw [join, isAbsolute_of_isName usable, if_neg Bool.false_ne_true] at alone
      split at alone
      · rw [String.length_append] at alone
        exact String.length_eq_zero_iff.mp (by omega)
      · simp only [String.length_append] at alone
        have slash : "/".length = 1 := rfl
        omega
  | cons head middle =>
      rw [List.cons_append] at shape
      simp only [parent?, headAndBody_eq shape, dropIdleEnd_concat middle usable.2.1] at above
      split at above
      · rename_i none
        simp at none
      · split at above
        · simp at above
        · rename_i some
          exact absurd (Option.some.inj above) (by simpa using some)

theorem leading_eq_nil {head : String} {before : List String} (none : leading head before = []) :
    head = "" ∧ before.filter (fun part => !isIdle part) = [] := by
  induction before with
  | nil => simpa [leading] using none
  | cons part rest ih =>
      cases idle : isIdle part with
      | true =>
          simp only [leading, idle, if_true] at none
          simpa [idle] using ih none
      | false => simp [leading, idle] at none

theorem ancestors_eq_nil (none : ancestors path = []) :
    path = "" ∨ isAbsolute path = true ∧ names path = [] := by
  obtain ⟨head, others, shape⟩ := List.exists_cons_of_ne_nil (partsOf_ne_nil path)
  have nothing : leading head (dropIdleEnd others).reverse = [] := by
    simp only [ancestors, headAndBody_eq shape] at none
    split at none
    · assumption
    · contradiction
  obtain ⟨rfl, idle⟩ := leading_eq_nil nothing
  cases others with
  | nil => exact .inl (eq_of_partsOf_singleton shape)
  | cons next rest =>
      right
      refine ⟨isAbsolute_iff_partsOf.mpr ⟨_, List.cons_ne_nil _ _, shape⟩, ?_⟩
      rw [List.filter_reverse, List.reverse_eq_nil_iff] at idle
      rw [names_eq shape, List.filter_cons, idle]
      rfl

theorem ancestors_eq_nil_or_cons (path : String) :
    ancestors path = [] ∨ ∃ above, ancestors path = path :: above := by
  simp only [ancestors]
  split
  · exact .inl rfl
  · exact .inr ⟨_, rfl⟩

theorem ancestors_empty : ancestors "" = [] := by decide

theorem mem_leading {head : String} {before : List String}
    (member : directory ∈ leading head before) :
    ∃ front, front <+: before.reverse ∧ (front = [] → head ≠ "") ∧
      directory = "/".intercalate (head :: front) := by
  induction before with
  | nil =>
      simp only [leading, String.isEmpty_iff] at member
      split at member
      · contradiction
      · rename_i some
        rw [List.mem_singleton] at member
        exact ⟨[], List.nil_prefix, fun _ => some, by simp [member]⟩
  | cons part rest ih =>
      have further (member : directory ∈ leading head rest) : ∃ front,
          front <+: (part :: rest).reverse ∧ (front = [] → head ≠ "") ∧
            directory = "/".intercalate (head :: front) := by
        obtain ⟨front, first, named, whole⟩ := ih member
        rw [List.reverse_cons]
        exact ⟨front, first.trans (List.prefix_append _ _), named, whole⟩
      simp only [leading] at member
      split at member
      · exact further member
      · rcases List.mem_cons.mp member with rfl | above
        · exact ⟨_, List.prefix_rfl, by simp, rfl⟩
        · exact further above

/-- The names of an ancestor are the first names of the path. -/
theorem names_of_mem_ancestors (member : directory ∈ ancestors path) :
    names directory <+: names path ∧ isAbsolute directory = isAbsolute path := by
  obtain ⟨head, others, shape⟩ := List.exists_cons_of_ne_nil (partsOf_ne_nil path)
  simp only [ancestors, headAndBody_eq shape] at member
  split at member
  · contradiction
  rename_i whole
  rcases List.mem_cons.mp member with rfl | above
  · exact ⟨List.prefix_rfl, rfl⟩
  obtain ⟨front, first, named, rfl⟩ := mem_leading (whole ▸ List.mem_cons_of_mem _ above)
  rw [List.reverse_reverse] at first
  have kept : ∀ part ∈ head :: front, '/' ∉ part.toList := fun part member => by
    refine not_mem_of_mem_partsOf (show part ∈ partsOf path from shape ▸ ?_)
    exact (List.mem_cons.mp member).elim (fun same => same ▸ .head _) fun inFront =>
      .tail _ (mem_of_mem_dropIdleEnd (first.subset inFront))
  have partsAbove := partsOf_intercalate (List.cons_ne_nil _ _) kept
  refine ⟨?_, Bool.eq_iff_iff.mpr ?_⟩
  · rw [names_eq shape, names, partsAbove]
    exact ((List.prefix_cons_inj head).mpr first).filter _
  · rw [isAbsolute_iff_partsOf, isAbsolute_iff_partsOf, partsAbove, shape]
    constructor
    · rintro ⟨_, below, same⟩
      obtain ⟨rfl, rfl⟩ := List.cons.inj same
      refine ⟨others, ?_, rfl⟩
      rintro rfl
      exact below (List.prefix_nil.mp first)
    · rintro ⟨_, _, same⟩
      obtain ⟨rfl, rfl⟩ := List.cons.inj same
      exact ⟨front, fun none => named none rfl, rfl⟩

end Path

end Curfew
