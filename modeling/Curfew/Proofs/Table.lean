import Curfew.Table

namespace Curfew

/-! Sizes of tables, and tables built up from lists. -/

namespace Entries

variable {α : Type}

theorem length_put_of_none {key : String} {entries : List (String × α)}
    (absent : lookup key entries = none) (value : α) :
    (put key value entries).length = entries.length + 1 := by
  induction entries with
  | nil => rfl
  | cons head tail ih =>
      obtain ⟨other, old⟩ := head
      by_cases same : key = other
      · simp [lookup, same] at absent
      · simp only [lookup, if_neg same] at absent
        simp only [put, if_neg same]
        split
        · rfl
        · simp [ih absent]

theorem length_put_of_some {key : String} {entries : List (String × α)} {old : α}
    (present : lookup key entries = some old) (ascending : Ascending entries) (value : α) :
    (put key value entries).length = entries.length := by
  induction entries with
  | nil => contradiction
  | cons head tail ih =>
      obtain ⟨other, first⟩ := head
      obtain ⟨above, tailAscending⟩ := List.pairwise_cons.mp ascending
      by_cases same : key = other
      · subst same
        simp [put]
      · simp only [lookup, if_neg same] at present
        -- The key is found further on, so it does not belong before the first entry.
        have later := above _ ((lookup_eq_some_iff tailAscending).mp present)
        have notBefore : ¬ key < other := fun less =>
          String.lt_irrefl _ (String.lt_trans less later)
        simp [put, same, notBefore, ih present tailAscending]

theorem put_eq_append {key : String} {entries : List (String × α)}
    (above : ∀ entry ∈ entries, entry.1 < key) (value : α) :
    put key value entries = entries ++ [(key, value)] := by
  induction entries with
  | nil => rfl
  | cons head tail ih =>
      obtain ⟨other, old⟩ := head
      have less : other < key := above _ (.head _)
      have notBefore : ¬ key < other := fun greater =>
        String.lt_irrefl _ (String.lt_trans greater less)
      simp only [put, if_neg notBefore, if_neg (ne_of_lt less).symm, List.cons_append,
        ih fun entry member => above entry (.tail _ member)]

theorem lookup_eq_some_iff_of_nodup {key : String} {value : α} {entries : List (String × α)}
    (distinct : (entries.map Prod.fst).Nodup) :
    lookup key entries = some value ↔ (key, value) ∈ entries := by
  induction entries with
  | nil => simp [lookup]
  | cons head tail ih =>
      obtain ⟨other, first⟩ := head
      obtain ⟨fresh, tailDistinct⟩ := List.nodup_cons.mp distinct
      simp only [lookup, List.mem_cons, Prod.mk.injEq]
      split
      · rename_i same
        subst same
        have notInTail : (key, value) ∉ tail := fun member =>
          fresh (List.mem_map.mpr ⟨_, member, rfl⟩)
        simp [notInTail, eq_comm]
      · rename_i different
        simp [different, ih tailDistinct]

theorem lookup_of_perm {left right : List (String × α)} (distinct : (left.map Prod.fst).Nodup)
    (same : left.Perm right) (key : String) : lookup key left = lookup key right := by
  have distinctToo : (right.map Prod.fst).Nodup := (same.map Prod.fst).nodup_iff.mp distinct
  refine Option.ext fun value => ?_
  rw [lookup_eq_some_iff_of_nodup distinct, lookup_eq_some_iff_of_nodup distinctToo, same.mem_iff]

theorem perm_of_lookup {left right : List (String × α)} (distinct : (left.map Prod.fst).Nodup)
    (distinctToo : (right.map Prod.fst).Nodup)
    (same : ∀ key, lookup key left = lookup key right) : left.Perm right := by
  have apart {entries : List (String × α)} (distinct : (entries.map Prod.fst).Nodup) :
      entries.Nodup :=
    List.Pairwise.of_map Prod.fst (fun _ _ different same => different (congrArg _ same)) distinct
  refine (List.perm_ext_iff_of_nodup (apart distinct) (apart distinctToo)).mpr fun entry => ?_
  rw [← lookup_eq_some_iff_of_nodup distinct, ← lookup_eq_some_iff_of_nodup distinctToo, same]

theorem lookup_append (key : String) (left right : List (String × α)) :
    lookup key (left ++ right) = (lookup key left).or (lookup key right) := by
  induction left with
  | nil => rfl
  | cons head tail ih =>
      obtain ⟨other, value⟩ := head
      simp only [List.cons_append, lookup, ih]
      split <;> rfl

theorem nodup_of_ascending {entries : List (String × α)} (ascending : Ascending entries) :
    (entries.map Prod.fst).Nodup :=
  List.pairwise_map.mpr (ascending.imp ne_of_lt)

end Entries

namespace Table

variable {α : Type}

theorem size_insert_of_none {table : Table α} {key : String}
    (absent : table.get? key = none) (value : α) :
    (table.insert key value).size = table.size + 1 :=
  Entries.length_put_of_none absent value

theorem size_insert_of_some {table : Table α} {key : String} {old : α}
    (present : table.get? key = some old) (value : α) :
    (table.insert key value).size = table.size :=
  Entries.length_put_of_some present table.ascending value

theorem size_erase_le (table : Table α) (key : String) : (table.erase key).size ≤ table.size :=
  List.length_filter_le ..

theorem get?_insert (table : Table α) (key : String) (value : α) (other : String) :
    (table.insert key value).get? other = if key = other then some value else table.get? other := by
  by_cases same : key = other
  · subst same
    rw [if_pos rfl, get?_insert_self]
  · rw [if_neg same, get?_insert_other _ (fun equal => same equal.symm)]

theorem get?_erase (table : Table α) (key other : String) :
    (table.erase key).get? other = if key = other then none else table.get? other := by
  by_cases same : key = other
  · subst same
    rw [if_pos rfl, get?_erase_self]
  · rw [if_neg same, get?_erase_other _ (fun equal => same equal.symm)]

theorem insert_insert_comm (table : Table α) {first second : String} (different : first ≠ second)
    (value other : α) :
    (table.insert first value).insert second other =
      (table.insert second other).insert first value := by
  refine ext_get? fun key => ?_
  simp only [get?_insert]
  by_cases isFirst : first = key
  · have notSecond : second ≠ key := fun isSecond => different (isFirst.trans isSecond.symm)
    rw [if_neg notSecond, if_pos isFirst, if_pos isFirst]
  · rw [if_neg isFirst, if_neg isFirst]

theorem get?_eq_some_iff {table : Table α} {key : String} {value : α} :
    table.get? key = some value ↔ (key, value) ∈ table.entries :=
  Entries.lookup_eq_some_iff table.ascending

theorem any_entries_iff {table : Table α} {holds : String × α → Bool} :
    table.entries.any holds = true ↔
      ∃ key value, table.get? key = some value ∧ holds (key, value) = true := by
  simp only [List.any_eq_true, Prod.exists, get?_eq_some_iff]

theorem all_entries_iff {table : Table α} {holds : String × α → Bool} :
    table.entries.all holds = true ↔
      ∀ key value, table.get? key = some value → holds (key, value) = true := by
  simp only [List.all_eq_true, Prod.forall, get?_eq_some_iff]

theorem mem_keys_filter_iff {table : Table α} {keep : String × α → Bool} {key : String} :
    key ∈ (table.entries.filter keep).map Prod.fst ↔
      ∃ value, table.get? key = some value ∧ keep (key, value) = true := by
  simp [get?_eq_some_iff]

theorem pairwise_keys_filter (table : Table α) (keep : String × α → Bool) :
    ((table.entries.filter keep).map Prod.fst).Pairwise (· < ·) :=
  List.pairwise_map.mpr (table.ascending.filter keep)

theorem entries_foldl_insert {entries : List (String × α)} {table : Table α}
    (ascending : Entries.Ascending (table.entries ++ entries)) :
    (entries.foldl (fun table entry => table.insert entry.1 entry.2) table).entries =
      table.entries ++ entries := by
  induction entries generalizing table with
  | nil => simp
  | cons entry rest ih =>
      obtain ⟨_, _, across⟩ := List.pairwise_append.mp ascending
      have appended : (table.insert entry.1 entry.2).entries = table.entries ++ [entry] :=
        Entries.put_eq_append (fun earlier member => across earlier member entry (.head _)) _
      have moved : (table.insert entry.1 entry.2).entries ++ rest =
          table.entries ++ entry :: rest := by
        rw [appended, List.append_assoc, List.singleton_append]
      rw [List.foldl_cons, ih (moved ▸ ascending), moved]

theorem entries_ofList {entries : List (String × α)} (ascending : Entries.Ascending entries) :
    (ofList entries).entries = entries :=
  entries_foldl_insert ascending

theorem get?_foldl_insert (entries : List (String × α)) (table : Table α) (key : String) :
    (entries.foldl (fun table entry => table.insert entry.1 entry.2) table).get? key =
      (Entries.lookup key entries.reverse).or (table.get? key) := by
  induction entries generalizing table with
  | nil => rfl
  | cons entry rest ih =>
      rw [List.foldl_cons, ih, get?_insert, List.reverse_cons, Entries.lookup_append, Option.or_assoc]
      by_cases same : entry.1 = key
      · simp [Entries.lookup, same]
      · simp [Entries.lookup, same, Ne.symm same]

theorem get?_ofList_eq_lookup_reverse (entries : List (String × α)) (key : String) :
    (ofList entries).get? key = Entries.lookup key entries.reverse := by
  rw [ofList, get?_foldl_insert, get?_empty, Option.or_none]

theorem get?_ofList {entries : List (String × α)} (distinct : (entries.map Prod.fst).Nodup)
    (key : String) : (ofList entries).get? key = Entries.lookup key entries := by
  rw [get?_ofList_eq_lookup_reverse]
  exact (Entries.lookup_of_perm distinct entries.reverse_perm.symm key).symm

theorem ofList_entries (table : Table α) : ofList table.entries = table := by
  have same := entries_ofList table.ascending
  cases table
  cases rebuilt : ofList _
  rw [rebuilt] at same
  cases same
  rfl

end Table

end Curfew
