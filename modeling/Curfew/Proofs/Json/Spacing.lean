import Curfew.Proofs.Json.RoundTrip

namespace Curfew.Json

/-! Blanks may stand before any piece of a text and at its end. -/

variable {blanks text : List Char} {pieces : List (List Char)} {tokens : List Token}

/-- The pieces of a text one after the other, with any blanks before, between and after them. -/
inductive Spaced : List (List Char) → List Char → Prop where
  | done {blanks : List Char} (blank : ∀ c ∈ blanks, isSpace c = true) : Spaced [] blanks
  | piece {piece blanks text : List Char} {pieces : List (List Char)}
      (blank : ∀ c ∈ blanks, isSpace c = true) (others : Spaced pieces text) :
      Spaced (piece :: pieces) (blanks ++ (piece ++ text))

theorem spaced_flatten (pieces : List (List Char)) : Spaced pieces pieces.flatten := by
  have none : ∀ c ∈ ([] : List Char), isSpace c = true := by simp
  induction pieces with
  | nil => exact .done none
  | cons piece pieces ih => exact .piece none ih

theorem Scans.after_blanks (blank : ∀ c ∈ blanks, isSpace c = true) (scans : Scans text tokens) :
    Scans (blanks ++ text) tokens := by
  induction blanks with
  | nil => exact scans
  | cons c blanks ih =>
      obtain ⟨space, others⟩ := List.forall_mem_cons.mp blank
      intro fuel enough
      cases fuel with
      | zero => contradiction
      | succ fuel =>
          have room : (blanks ++ text).length ≤ fuel := Nat.le_of_succ_le_succ enough
          rw [List.cons_append, scanAll?, if_pos space]
          exact ih others fuel room

theorem mem_endMarks_of_isSpace {c : Char} (space : isSpace c = true) : c ∈ endMarks := by
  simp only [isSpace, Bool.or_eq_true, beq_iff_eq] at space
  rcases space with ((rfl | rfl) | rfl) | rfl <;> decide

theorem Spaced.ends {mark : Char} (isMark : mark ∈ endMarks) (spaced : Spaced ([mark] :: pieces) text) :
    Ends text := by
  cases spaced with
  | piece blank others =>
      intro c head
      rename_i before behind
      cases before with
      | nil =>
          cases Option.some.inj head
          exact isMark
      | cons first more =>
          have same : first = c := Option.some.inj head
          exact same ▸ mem_endMarks_of_isSpace (blank first (.head _))

theorem Spaced.scans_mark {mark : Char} {token : Token} (spaced : Spaced ([mark] :: pieces) text)
    (visible : isSpace mark = false)
    (scanned : ∀ rest, scanToken? (mark :: rest) = some (token, rest))
    (others : ∀ {rest}, Spaced pieces rest → Scans rest tokens) : Scans text (token :: tokens) := by
  cases spaced with
  | piece blank behind =>
      exact ((others behind).token (scanned _) visible (Nat.le_refl _)).after_blanks blank

theorem Spaced.scans_integer {n : Int} {literal : NumberLiteral}
    (spaced : Spaced (Decimal.intDigits n :: pieces) text)
    (scanned : ∀ rest, Ends rest →
      scanToken? (Decimal.intDigits n ++ rest) = some (.number literal, rest))
    (ends : ∀ {rest}, Spaced pieces rest → Ends rest)
    (others : ∀ {rest}, Spaced pieces rest → Scans rest tokens) :
    Scans text (.number literal :: tokens) := by
  cases spaced with
  | piece blank behind =>
      rename_i rest
      obtain ⟨first, later, written, visible⟩ := intDigits_eq_cons n
      have token := scanned _ (ends behind)
      rw [written, List.cons_append] at token
      have shorter : rest.length ≤ (later ++ rest).length := by
        rw [List.length_append]
        omega
      have scans := (others behind).token token visible shorter
      rw [← List.cons_append, ← written] at scans
      exact scans.after_blanks blank

theorem Spaced.scans_end (spaced : Spaced [] text) : Scans text [] := by
  cases spaced with
  | done blank => simpa using Scans.after_blanks blank scans_nil

end Curfew.Json
