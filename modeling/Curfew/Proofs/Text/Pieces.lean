import Curfew.Text.Pieces
import Mathlib.Data.List.DropRight

namespace Curfew.Text

/-! What lies between the marks of a text, and what trimming takes away and leaves. -/

variable {mark : Char} {text before after : List Char}

theorem pieces_of_not_mem (unmarked : mark ∉ text) : pieces mark text = [text] := by
  induction text with
  | nil => rfl
  | cons c rest ih =>
      simp only [List.mem_cons, not_or] at unmarked
      simp only [pieces, if_neg (Ne.symm unmarked.1), ih unmarked.2]

theorem pieces_append (before after : List Char) :
    pieces mark (before ++ mark :: after) = pieces mark before ++ pieces mark after := by
  induction before with
  | nil => simp [pieces]
  | cons c rest ih =>
      obtain ⟨piece, others, shape⟩ := List.exists_cons_of_ne_nil (pieces_ne_nil mark rest)
      rw [shape] at ih
      by_cases same : c = mark
      · simp [pieces, same, shape, ih]
      · simp [pieces, same, shape, ih]

theorem not_mem_of_mem_pieces {piece : List Char} (member : piece ∈ pieces mark text) :
    mark ∉ piece := by
  induction text generalizing piece with
  | nil =>
      rw [pieces, List.mem_singleton] at member
      simp [member]
  | cons c rest ih =>
      obtain ⟨first, others, shape⟩ := List.exists_cons_of_ne_nil (pieces_ne_nil mark rest)
      rw [shape] at ih
      by_cases same : c = mark
      · simp only [pieces, if_pos same, shape, List.mem_cons] at member
        rcases member with rfl | further
        · simp
        · exact ih (List.mem_cons.mpr further)
      · simp only [pieces, if_neg same, shape, List.mem_cons] at member
        rcases member with rfl | further
        · simp only [List.mem_cons, not_or]
          exact ⟨Ne.symm same, ih (.head _)⟩
        · exact ih (.tail _ further)

theorem pieces_intercalate {parts : List (List Char)} (some : parts ≠ [])
    (unmarked : ∀ piece ∈ parts, mark ∉ piece) :
    pieces mark ([mark].intercalate parts) = parts := by
  induction parts with
  | nil => contradiction
  | cons first rest ih =>
      have alone : pieces mark first = [first] := pieces_of_not_mem (unmarked first (.head _))
      cases rest with
      | nil => simpa using alone
      | cons second rest =>
          rw [List.intercalate_cons_cons, List.append_assoc, List.singleton_append,
            pieces_append, alone, ih (by simp) fun piece member => unmarked piece (.tail _ member)]
          rfl

section Blanks

variable {body : List Char} {first last : Char}

def AllBlank (text : List Char) : Prop := ∀ c ∈ text, isBlank c = true

theorem exists_trimStart (text : List Char) :
    ∃ blanks, text = blanks ++ trimStart text ∧ AllBlank blanks :=
  ⟨text.takeWhile isBlank, List.takeWhile_append_dropWhile.symm, fun _ => List.mem_takeWhile_imp⟩

theorem exists_trimEnd (text : List Char) :
    ∃ blanks, text = trimEnd text ++ blanks ∧ AllBlank blanks :=
  ⟨text.rtakeWhile isBlank, List.rdropWhile_append_rtakeWhile.symm,
    fun _ => List.mem_rtakeWhile_imp⟩

theorem exists_trim (text : List Char) :
    ∃ before after, text = before ++ trim text ++ after ∧ AllBlank before ∧ AllBlank after := by
  obtain ⟨before, starts, beforeBlank⟩ := exists_trimStart text
  obtain ⟨after, ends, afterBlank⟩ := exists_trimEnd (trimStart text)
  refine ⟨before, after, ?_, beforeBlank, afterBlank⟩
  rw [List.append_assoc, trim, ← ends, ← starts]

theorem trimStart_append (blank : AllBlank before) (starts : body.head? = some first)
    (visible : isBlank first = false) : trimStart (before ++ body) = body := by
  obtain ⟨rest, rfl⟩ := List.head?_eq_some_iff.mp starts
  rw [trimStart, List.dropWhile_append_of_pos blank, List.dropWhile_cons_of_neg (by simp [visible])]

theorem trimEnd_append (ends : body.getLast? = some last) (visible : isBlank last = false)
    (blank : AllBlank after) : trimEnd (body ++ after) = body := by
  have starts : body.reverse.head? = some last := by rw [List.head?_reverse, ends]
  have reversed : AllBlank after.reverse := fun c member => blank c (List.mem_reverse.mp member)
  have trimmed := trimStart_append reversed starts visible
  rw [trimStart] at trimmed
  rw [trimEnd, List.reverse_append, trimmed, List.reverse_reverse]

theorem trim_append (beforeBlank : AllBlank before) (starts : body.head? = some first)
    (firstVisible : isBlank first = false) (ends : body.getLast? = some last)
    (lastVisible : isBlank last = false) (afterBlank : AllBlank after) :
    trim (before ++ body ++ after) = body := by
  have startsToo : (body ++ after).head? = some first := by
    rw [List.head?_append, starts]
    rfl
  rw [List.append_assoc, trim, trimStart_append beforeBlank startsToo firstVisible,
    trimEnd_append ends lastVisible afterBlank]

theorem trim_eq_nil_iff : trim text = [] ↔ AllBlank text := by
  constructor
  · intro nothing
    obtain ⟨before, after, whole, beforeBlank, afterBlank⟩ := exists_trim text
    rw [nothing, List.append_nil] at whole
    intro c member
    rw [whole] at member
    rcases List.mem_append.mp member with early | late
    · exact beforeBlank c early
    · exact afterBlank c late
  · intro blank
    have nothing : trimStart text = [] := List.dropWhile_eq_nil_iff.mpr blank
    rw [trim, nothing]
    rfl

end Blanks

end Curfew.Text
