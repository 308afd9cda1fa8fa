namespace Curfew

/-! Tables from texts to values, kept in ascending order of their keys.  Two tables
are equal when every look-up finds the same in both, so nothing that is read off a
table depends on the order in which it was filled. -/

namespace Entries

variable {α β : Type}

def lookup (key : String) : List (String × α) → Option α
  | [] => none
  | (other, value) :: rest => if key = other then some value else lookup key rest

/-- Puts an entry where its key belongs, over an entry with the same key. -/
def put (key : String) (value : α) : List (String × α) → List (String × α)
  | [] => [(key, value)]
  | (other, old) :: rest =>
      if key < other then (key, value) :: (other, old) :: rest
      else if key = other then (key, value) :: rest
      else (other, old) :: put key value rest

def remove (key : String) (entries : List (String × α)) : List (String × α) :=
  entries.filter fun entry => entry.1 ≠ key

def Ascending (entries : List (String × α)) : Prop :=
  entries.Pairwise fun left right => left.1 < right.1

theorem ne_of_lt {left right : String} (less : left < right) : left ≠ right := by
  rintro rfl
  exact String.lt_irrefl _ less

theorem lt_of_not_lt_of_ne {left right : String} (notLess : ¬left < right)
    (different : left ≠ right) : right < left := by
  rcases Std.Trichotomous.rel_or_eq_or_rel_swap (r := fun a b : String => a < b)
    (a := left) (b := right) with less | same | greater
  · exact absurd less notLess
  · exact absurd same different
  · exact greater

theorem fst_mem_put {key : String} {value : α} {entries : List (String × α)}
    {entry : String × α} (member : entry ∈ put key value entries) :
    entry.1 = key ∨ ∃ old ∈ entries, old.1 = entry.1 := by
  induction entries with
  | nil => simp only [put, List.mem_singleton] at member; simp [member]
  | cons head tail ih =>
      obtain ⟨other, old⟩ := head
      simp only [put] at member
      split at member
      · rcases List.mem_cons.mp member with rfl | member
        · exact .inl rfl
        · exact .inr ⟨entry, member, rfl⟩
      · split at member
        · rcases List.mem_cons.mp member with rfl | member
          · exact .inl rfl
          · exact .inr ⟨entry, .tail _ member, rfl⟩
        · rcases List.mem_cons.mp member with rfl | member
          · exact .inr ⟨_, .head _, rfl⟩
          · rcases ih member with same | ⟨found, inTail, same⟩
            · exact .inl same
            · exact .inr ⟨found, .tail _ inTail, same⟩

theorem ascending_put {key : String} {value : α} {entries : List (String × α)}
    (ascending : Ascending entries) : Ascending (put key value entries) := by
  induction entries with
  | nil => simp [put, Ascending]
  | cons head tail ih =>
      obtain ⟨other, old⟩ := head
      obtain ⟨above, tailAscending⟩ := List.pairwise_cons.mp ascending
      simp only [put]
      split
      · rename_i less
        refine List.pairwise_cons.mpr ⟨fun entry member => ?_, ascending⟩
        rcases List.mem_cons.mp member with rfl | member
        · exact less
        · exact String.lt_trans less (above entry member)
      · rename_i notLess
        split
        · rename_i same
          subst same
          exact List.pairwise_cons.mpr ⟨above, tailAscending⟩
        · rename_i different
          refine List.pairwise_cons.mpr ⟨fun entry member => ?_, ih tailAscending⟩
          rcases fst_mem_put member with same | ⟨found, inTail, same⟩
          · exact same ▸ lt_of_not_lt_of_ne notLess different
          · exact same ▸ above found inTail

theorem lookup_put_self (key : String) (value : α) (entries : List (String × α)) :
    lookup key (put key value entries) = some value := by
  induction entries with
  | nil => simp [put, lookup]
  | cons head tail ih =>
      obtain ⟨other, old⟩ := head
      simp only [put]
      split
      · simp [lookup]
      · split
        · simp [lookup]
        · rename_i different
          simp [lookup, different, ih]

theorem lookup_put_other {key other : String} (different : other ≠ key) (value : α)
    (entries : List (String × α)) :
    lookup other (put key value entries) = lookup other entries := by
  induction entries with
  | nil => simp [put, lookup, different]
  | cons head tail ih =>
      obtain ⟨first, old⟩ := head
      simp only [put]
      split
      · simp [lookup, different]
      · split
        · rename_i same
          subst same
          simp [lookup, different]
        · simp [lookup, ih]

theorem lookup_remove_self (key : String) (entries : List (String × α)) :
    lookup key (remove key entries) = none := by
  induction entries with
  | nil => rfl
  | cons head tail ih =>
      obtain ⟨other, old⟩ := head
      by_cases same : other = key
      · simpa [remove, same] using ih
      · have : key ≠ other := fun equal => same equal.symm
        simpa [remove, same, lookup, this] using ih

theorem lookup_remove_other {key other : String} (different : other ≠ key)
    (entries : List (String × α)) :
    lookup other (remove key entries) = lookup other entries := by
  induction entries with
  | nil => rfl
  | cons head tail ih =>
      obtain ⟨first, old⟩ := head
      by_cases same : first = key
      · subst same
        simpa [remove, lookup, different] using ih
      · simp only [remove, ne_eq, same, not_false_eq_true, decide_true, List.filter_cons_of_pos,
          lookup]
        split
        · rfl
        · simpa [remove] using ih

theorem lookup_map (f : String → α → β) (key : String) (entries : List (String × α)) :
    lookup key (entries.map fun entry => (entry.1, f entry.1 entry.2)) =
      (lookup key entries).map (f key) := by
  induction entries with
  | nil => rfl
  | cons head tail ih =>
      obtain ⟨other, value⟩ := head
      simp only [List.map_cons, lookup]
      split
      · rename_i same
        simp [same]
      · exact ih

theorem ascending_map (f : String → α → β) {entries : List (String × α)}
    (ascending : Ascending entries) :
    Ascending (entries.map fun entry => (entry.1, f entry.1 entry.2)) := by
  rw [Ascending, List.pairwise_map]
  exact ascending

theorem lookup_eq_some_iff {key : String} {value : α} {entries : List (String × α)}
    (ascending : Ascending entries) :
    lookup key entries = some value ↔ (key, value) ∈ entries := by
  induction entries with
  | nil => simp [lookup]
  | cons head tail ih =>
      obtain ⟨other, first⟩ := head
      obtain ⟨above, tailAscending⟩ := List.pairwise_cons.mp ascending
      simp only [lookup, List.mem_cons, Prod.mk.injEq]
      split
      · rename_i same
        subst same
        constructor
        · rintro ⟨⟩
          exact .inl ⟨rfl, rfl⟩
        · rintro (⟨_, rfl⟩ | member)
          · rfl
          · exact absurd (above _ member) (String.lt_irrefl _)
      · rename_i different
        simp [different, ih tailAscending]

theorem lookup_eq_none_iff {key : String} {entries : List (String × α)} :
    lookup key entries = none ↔ ∀ entry ∈ entries, entry.1 ≠ key := by
  induction entries with
  | nil => simp [lookup]
  | cons head tail ih =>
      obtain ⟨other, value⟩ := head
      simp only [lookup, List.mem_cons, forall_eq_or_imp]
      split
      · rename_i same
        simp [same]
      · rename_i different
        simp only [ih]
        exact ⟨fun rest => ⟨fun same => different same.symm, rest⟩, fun both => both.2⟩

/-- Ascending entries are determined by what is found in them. -/
theorem eq_of_lookup {left right : List (String × α)} (leftAscending : Ascending left)
    (rightAscending : Ascending right)
    (same : ∀ key, lookup key left = lookup key right) : left = right := by
  have members : ∀ entry, entry ∈ left ↔ entry ∈ right := fun entry => by
    rw [← lookup_eq_some_iff leftAscending, ← lookup_eq_some_iff rightAscending, same]
  clear same
  induction left generalizing right with
  | nil =>
      cases right with
      | nil => rfl
      | cons head tail => simpa using (members head).mpr (.head _)
  | cons head tail ih =>
      cases right with
      | nil => simpa using (members head).mp (.head _)
      | cons head' tail' =>
          obtain ⟨above, tailAscending⟩ := List.pairwise_cons.mp leftAscending
          obtain ⟨above', tailAscending'⟩ := List.pairwise_cons.mp rightAscending
          have heads : head = head' := by
            rcases List.mem_cons.mp ((members head).mp (.head _)) with equal | inTail
            · exact equal
            rcases List.mem_cons.mp ((members head').mpr (.head _)) with equal | inTail'
            · exact equal.symm
            exact absurd (String.lt_trans (above' head inTail) (above head' inTail'))
              (String.lt_irrefl _)
          subst heads
          have tails : ∀ entry, entry ∈ tail ↔ entry ∈ tail' := fun entry => by
            constructor <;> intro member
            · rcases List.mem_cons.mp ((members entry).mp (.tail _ member)) with equal | inTail
              · subst equal
                exact absurd (above entry member) (String.lt_irrefl _)
              · exact inTail
            · rcases List.mem_cons.mp ((members entry).mpr (.tail _ member)) with equal | inTail
              · subst equal
                exact absurd (above' entry member) (String.lt_irrefl _)
              · exact inTail
          rw [ih tailAscending tailAscending' tails]

end Entries

structure Table (α : Type) where
  entries : List (String × α)
  ascending : Entries.Ascending entries
deriving DecidableEq, Repr

namespace Table

variable {α β : Type}

def empty : Table α := ⟨[], .nil⟩

instance : Inhabited (Table α) := ⟨empty⟩

def get? (table : Table α) (key : String) : Option α :=
  Entries.lookup key table.entries

def contains (table : Table α) (key : String) : Bool :=
  (table.get? key).isSome

def size (table : Table α) : Nat := table.entries.length

def isEmpty (table : Table α) : Bool := table.entries.isEmpty

def keys (table : Table α) : List String := table.entries.map Prod.fst

/-- An entry with the same key is replaced. -/
def insert (table : Table α) (key : String) (value : α) : Table α :=
  ⟨Entries.put key value table.entries, Entries.ascending_put table.ascending⟩

def erase (table : Table α) (key : String) : Table α :=
  ⟨Entries.remove key table.entries, table.ascending.filter _⟩

/-- Applies a function to every value. -/
def map (f : String → α → β) (table : Table α) : Table β :=
  ⟨table.entries.map fun entry => (entry.1, f entry.1 entry.2),
    Entries.ascending_map f table.ascending⟩

/-- Of entries with one key the last one counts. -/
def ofList (entries : List (String × α)) : Table α :=
  entries.foldl (fun table entry => table.insert entry.1 entry.2) empty

@[simp] theorem get?_empty (key : String) : (empty : Table α).get? key = none := rfl

@[simp] theorem get?_insert_self (table : Table α) (key : String) (value : α) :
    (table.insert key value).get? key = some value :=
  Entries.lookup_put_self key value table.entries

theorem get?_insert_other (table : Table α) {key other : String} (different : other ≠ key)
    (value : α) : (table.insert key value).get? other = table.get? other :=
  Entries.lookup_put_other different value table.entries

@[simp] theorem get?_erase_self (table : Table α) (key : String) :
    (table.erase key).get? key = none :=
  Entries.lookup_remove_self key table.entries

theorem get?_erase_other (table : Table α) {key other : String} (different : other ≠ key) :
    (table.erase key).get? other = table.get? other :=
  Entries.lookup_remove_other different table.entries

@[simp] theorem get?_map (f : String → α → β) (table : Table α) (key : String) :
    (table.map f).get? key = (table.get? key).map (f key) :=
  Entries.lookup_map f key table.entries

theorem ext_get? {left right : Table α} (same : ∀ key, left.get? key = right.get? key) :
    left = right := by
  cases left with
  | mk leftEntries leftAscending =>
      cases right with
      | mk rightEntries rightAscending =>
          have := Entries.eq_of_lookup leftAscending rightAscending same
          subst this
          rfl

@[simp] theorem size_map (f : String → α → β) (table : Table α) :
    (table.map f).size = table.size :=
  List.length_map ..

end Table

end Curfew
