import Curfew.Json.Record
import Curfew.Proofs.Json.RoundTrip
import Mathlib.Data.List.Forall2

namespace Curfew.Json

/-! A tree that means a value is read as that value, and the members of an object are found
under their keys. -/

variable {depth : Nat} {tree : Tree}

theorem integerOf?_of_meant {n : Int}
    (meant : Value.ofTree? depth tree = some (.number (.integer n))) :
    integerOf? tree = some n := by
  cases tree with
  | number literal =>
      rw [Value.ofTree?] at meant
      obtain ⟨number, read, same⟩ := Option.map_eq_some_iff.mp meant
      cases same
      simp [integerOf?, read]
  | null | bool | string => simp [Value.ofTree?] at meant
  | array | object => cases depth <;> simp [Value.ofTree?] at meant

theorem naturalOf?_of_meant {n : Nat} (meant : Value.ofTree? depth tree = some (natural n)) :
    naturalOf? tree = some n := by
  rw [naturalOf?, integerOf?_of_meant meant]
  rfl

theorem exists_members_of_meant {entries : List (String × Value)}
    (meant : Value.ofTree? (depth + 1) tree = some (.object entries)) :
    ∃ members, tree = .object members ∧ members.mapM (memberOf? depth) = some entries := by
  cases tree with
  | object members =>
      rw [ofTree?_object] at meant
      obtain ⟨read, all, same⟩ := Option.map_eq_some_iff.mp meant
      cases same
      exact ⟨members, rfl, all⟩
  | null | bool | number | string | array => simp [Value.ofTree?] at meant

/-- A member before and after its value is read. -/
def Means (depth : Nat) (member : String × Tree) (entry : String × Value) : Prop :=
  member.1 = entry.1 ∧ Value.ofTree? depth member.2 = some entry.2

theorem keys_of_meant {members : List (StringLiteral × Tree)} {entries : List (String × Value)}
    (meant : members.mapM (memberOf? depth) = some entries) :
    ∃ keyed, (members.mapM fun (key, value) => (stringOf? key).map fun key => (key, value)) =
      some keyed ∧ List.Forall₂ (Means depth) keyed entries := by
  induction members generalizing entries with
  | nil =>
      cases meant
      exact ⟨[], rfl, .nil⟩
  | cons member members ih =>
      obtain ⟨literal, value⟩ := member
      rw [List.mapM_cons] at meant
      obtain ⟨entry, first, meant⟩ := Option.bind_eq_some_iff.mp meant
      obtain ⟨rest, others, same⟩ := Option.bind_eq_some_iff.mp meant
      obtain ⟨key, named, first⟩ := Option.bind_eq_some_iff.mp first
      obtain ⟨read, isRead, made⟩ := Option.bind_eq_some_iff.mp first
      cases same
      cases made
      obtain ⟨keyed, found, related⟩ := ih others
      refine ⟨(key, value) :: keyed, ?_, .cons ⟨rfl, isRead⟩ related⟩
      simp [List.mapM_cons, show stringOf? literal = some key from named, found]

theorem map_fst_of_meant {keyed : List (String × Tree)} {entries : List (String × Value)}
    (related : List.Forall₂ (Means depth) keyed entries) :
    keyed.map Prod.fst = entries.map Prod.fst := by
  induction related with
  | nil => rfl
  | cons means _ ih => rw [List.map_cons, List.map_cons, means.1, ih]

theorem filter_key_of_meant {keyed : List (String × Tree)} {entries : List (String × Value)}
    (related : List.Forall₂ (Means depth) keyed entries)
    (distinct : (entries.map Prod.fst).Nodup) {name : String} {value : Value}
    (member : (name, value) ∈ entries) :
    ∃ tree, (keyed.filter fun member => member.1 == name) = [(name, tree)] ∧
      Value.ofTree? depth tree = some value := by
  induction related with
  | nil => contradiction
  | @cons first entry keyed entries means related ih =>
      obtain ⟨key, tree⟩ := first
      obtain ⟨same, meant⟩ := means
      obtain ⟨fresh, tailDistinct⟩ := List.nodup_cons.mp distinct
      rcases List.mem_cons.mp member with rfl | later
      · cases same
        -- The key does not come again, so nothing else passes the filter.
        rw [← map_fst_of_meant related] at fresh
        have none : (keyed.filter fun member => member.1 == name) = [] := by
          refine List.filter_eq_nil_iff.mpr fun other inRest same => fresh ?_
          exact List.mem_map.mpr ⟨other, inRest, eq_of_beq same⟩
        exact ⟨tree, by simp only [List.filter_cons, beq_self_eq_true, if_true, none], meant⟩
      · have different : key ≠ name := by
          rintro rfl
          exact fresh (same ▸ List.mem_map.mpr ⟨_, later, rfl⟩)
        simpa [different] using ih tailDistinct later

/-- `fieldOf?` finds a member whose key is written once. -/
theorem fieldOf?_of_meant {members : List (StringLiteral × Tree)} {entries : List (String × Value)}
    (meant : members.mapM (memberOf? depth) = some entries)
    (distinct : (entries.map Prod.fst).Nodup) {name : String} {value : Value}
    (member : (name, value) ∈ entries) :
    ∃ tree, fieldOf? name members = some tree ∧ Value.ofTree? depth tree = some value := by
  obtain ⟨keyed, found, related⟩ := keys_of_meant meant
  obtain ⟨tree, filtered, read⟩ := filter_key_of_meant related distinct member
  exact ⟨tree, by simp [fieldOf?, found, filtered], read⟩

end Curfew.Json
