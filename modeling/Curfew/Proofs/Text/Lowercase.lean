import Curfew.Text.LetterCase
import Curfew.Text.Pieces

namespace Curfew.Text

/-! Texts whose lowercase form consists of characters that no letter beyond ASCII is lowered to.
Such a text is lowered letter by letter, as if there were no other letters. -/

/-- Signs, digits, blanks, and the letters of the halves of the day. -/
def steadyRanges : List (Nat × Nat) :=
  [ (0x09, 0x0D), (0x20, 0x20), (0x2B, 0x2B), (0x30, 0x3A), (0x61, 0x61), (0x6D, 0x6D),
    (0x70, 0x70), (0x85, 0x85), (0xA0, 0xA0), (0x1680, 0x1680), (0x2000, 0x200A),
    (0x2028, 0x2029), (0x202F, 0x202F), (0x205F, 0x205F), (0x3000, 0x3000) ]

def isSteady (c : Char) : Bool := inRanges steadyRanges c

variable {c d : Char} {text : List Char} {run : CaseRun}

theorem exists_range_of_isSteady (steady : isSteady c = true) :
    ∃ range ∈ steadyRanges, range.1 ≤ c.toNat ∧ c.toNat ≤ range.2 := by
  simpa [isSteady, inRanges] using steady

/-- No character of the range is lowered along the run, nor is one the lowercase form of a character
of the run. -/
def CaseRun.avoids (run : CaseRun) (range : Nat × Nat) : Prop :=
  (range.2 < run.first ∨ run.last < range.1) ∧
    (range.2 < run.first + run.shift ∨ run.last + run.shift < range.1)

instance (run : CaseRun) (range : Nat × Nat) : Decidable (run.avoids range) :=
  inferInstanceAs (Decidable (_ ∧ _))

theorem avoids_of_mem :
    ∀ run ∈ caseRuns.tail, ∀ range ∈ steadyRanges, run.avoids range := by
  decide +kernel

theorem positive_of_mem : ∀ range ∈ steadyRanges, 0 < range.1 := by decide

theorem isUpper_iff : c.isUpper = true ↔ 0x41 ≤ c.toNat ∧ c.toNat ≤ 0x5A :=
  decide_eq_true_iff

theorem isLower_iff : c.isLower = true ↔ 0x61 ≤ c.toNat ∧ c.toNat ≤ 0x7A := by
  change (_ && _) = true ↔ _
  rw [Bool.and_eq_true]
  exact and_congr decide_eq_true_iff decide_eq_true_iff

theorem toLower_of_isUpper (upper : c.isUpper = true) :
    c.toLower = Char.ofNat (c.toNat + 32) ∧ c.toLower.isLower = true := by
  obtain ⟨notBefore, notAfter⟩ := isUpper_iff.mp upper
  have all : ∀ n : Fin 26, (Char.ofNat (0x41 + n)).toLower = Char.ofNat (0x41 + n + 32) ∧
      (Char.ofNat (0x41 + n)).toLower.isLower = true := by decide
  have letter := all ⟨c.toNat - 0x41, by omega⟩
  have code : 0x41 + (c.toNat - 0x41) = c.toNat := by omega
  rwa [code, Char.ofNat_toNat] at letter

theorem toLower_of_not_isUpper (notUpper : c.isUpper = false) : c.toLower = c :=
  dif_neg (of_decide_eq_false notUpper)

theorem toLower_of_not_isLower (notLower : c.toLower.isLower = false) : c.toLower = c := by
  refine toLower_of_not_isUpper ?_
  rw [← Bool.not_eq_true]
  intro upper
  rw [(toLower_of_isUpper upper).2] at notLower
  contradiction

theorem toNat_ofNat_cases (code : Nat) :
    (Char.ofNat code).toNat = code ∨ (Char.ofNat code).toNat = 0 := by
  by_cases valid : code.isValidChar
  · have made : Char.ofNat code = Char.ofNatAux code valid := dif_pos valid
    rw [made]
    exact .inl (UInt32.toNat_ofNatLT ..)
  · have made : Char.ofNat code = Char.ofNat 0 := dif_neg valid
    rw [made]
    exact .inr rfl

theorem eq_or_eq_of_toLower (lowered : c.toLower = d) : c = d ∨ c = Char.ofNat (d.toNat - 32) := by
  cases upper : c.isUpper with
  | false => exact .inl ((toLower_of_not_isUpper upper).symm.trans lowered)
  | true =>
      obtain ⟨shifted, lower⟩ := toLower_of_isUpper upper
      rw [lowered] at shifted lower
      obtain ⟨notBefore, _⟩ := isLower_iff.mp lower
      rcases toNat_ofNat_cases (c.toNat + 32) with code | zero
      · rw [← shifted] at code
        refine .inr ?_
        rw [code, Nat.add_sub_cancel, Char.ofNat_toNat]
      · rw [← shifted] at zero
        omega

def CaseRun.ascii : CaseRun := ⟨0x41, 0x5A, 1, 32⟩

theorem caseRuns_eq : caseRuns = .ascii :: caseRuns.tail := rfl

theorem CaseRun.covers_iff {code : Nat} :
    run.covers code = true ↔
      (run.first ≤ code ∧ code ≤ run.last) ∧ (code - run.first) % run.step = 0 := by
  simp [covers]

theorem covers_ascii_iff : CaseRun.ascii.covers c.toNat = true ↔ c.isUpper = true := by
  simp only [CaseRun.covers_iff, CaseRun.ascii, Nat.mod_one, and_true, isUpper_iff]

theorem find?_caseRuns_of_isUpper (upper : c.isUpper = true) :
    caseRuns.find? (·.covers c.toNat) = some .ascii := by
  rw [caseRuns_eq, List.find?_cons, covers_ascii_iff.mpr upper]

theorem find?_caseRuns_of_not_isUpper (notUpper : c.isUpper = false) :
    caseRuns.find? (·.covers c.toNat) = caseRuns.tail.find? (·.covers c.toNat) := by
  have uncovered : CaseRun.ascii.covers c.toNat = false := by
    rw [← Bool.not_eq_true, covers_ascii_iff, notUpper]
    decide
  rw [caseRuns_eq, List.find?_cons, uncovered]
  rfl

/-- The lowercase form of a character on its own. -/
inductive Lowered (c : Char) : List Char → Prop where
  | ascii : Lowered c [c.toLower]
  | dotted (code : c.toNat = 0x130) : Lowered c ['i', Char.ofNat 0x307]
  | along (run : CaseRun) (listed : run ∈ caseRuns.tail) (covered : run.covers c.toNat = true)
      (notUpper : c.isUpper = false) :
      Lowered c [Char.ofNat ((c.toNat : Int) + run.shift).toNat]

theorem lowered_lowercaseChar (c : Char) : Lowered c (lowercaseChar c) := by
  by_cases dotted : c.toNat = 0x130
  · rw [lowercaseChar, if_pos dotted]
    exact .dotted dotted
  · rw [lowercaseChar, if_neg dotted]
    cases upper : c.isUpper with
    | true =>
        have same : [Char.ofNat ((c.toNat : Int) + CaseRun.ascii.shift).toNat] = [c.toLower] := by
          rw [(toLower_of_isUpper upper).1]
          rfl
        simp only [find?_caseRuns_of_isUpper upper, same]
        exact .ascii
    | false =>
        rw [find?_caseRuns_of_not_isUpper upper]
        cases found : caseRuns.tail.find? (·.covers c.toNat) with
        | none =>
            have same : c.toLower = c := toLower_of_not_isUpper upper
            simpa [same] using Lowered.ascii (c := c)
        | some run =>
            have covered : run.covers c.toNat = true :=
              List.find?_some (p := fun run : CaseRun => run.covers c.toNat) found
            exact .along run (List.mem_of_find?_eq_some found) covered upper

theorem not_isSteady_of_covers (listed : run ∈ caseRuns.tail) (covered : run.covers c.toNat = true) :
    isSteady c = false ∧
      isSteady (Char.ofNat ((c.toNat : Int) + run.shift).toNat) = false := by
  obtain ⟨notBefore, notAfter⟩ := (CaseRun.covers_iff.mp covered).1
  rw [← Bool.not_eq_true, ← Bool.not_eq_true]
  constructor
  · intro steady
    obtain ⟨range, member, lower, upper⟩ := exists_range_of_isSteady steady
    have apart := (avoids_of_mem run listed range member).1
    omega
  · intro steady
    obtain ⟨range, member, lower, upper⟩ := exists_range_of_isSteady steady
    have apart := (avoids_of_mem run listed range member).2
    have positive := positive_of_mem range member
    rcases toNat_ofNat_cases ((c.toNat : Int) + run.shift).toNat with same | zero
    · rw [same] at lower upper
      omega
    · rw [zero] at lower
      omega

theorem Lowered.eq_of_isSteady {lowered : List Char} (shape : Lowered c lowered)
    (steady : isSteady c.toLower = true ∨ ∃ d ∈ lowered, isSteady d = true) :
    lowered = [c.toLower] := by
  cases shape with
  | ascii => rfl
  | dotted code =>
      rcases steady with steady | ⟨d, member, steady⟩
      · have same : c = Char.ofNat 0x130 := by rw [← code, Char.ofNat_toNat]
        rw [same] at steady
        exact absurd steady (by decide)
      · rcases List.mem_cons.mp member with rfl | member
        · exact absurd steady (by decide)
        · cases List.mem_singleton.mp member
          exact absurd steady (by decide)
  | along run listed covered notUpper =>
      obtain ⟨before, after⟩ := not_isSteady_of_covers listed covered
      have same : c.toLower = c := toLower_of_not_isUpper notUpper
      rcases steady with steady | ⟨d, member, steady⟩
      · rw [same, before] at steady
        contradiction
      · rw [List.mem_singleton.mp member, after] at steady
        contradiction

theorem ne_sigma_of_isSteady (steady : isSteady c.toLower = true) : c ≠ 'Σ' := by
  rintro rfl
  exact absurd steady (by decide)

theorem lowercaseAfter_eq_map {before : List Char}
    (steady : ∀ c ∈ text, isSteady c.toLower = true) :
    lowercaseAfter before text = text.map Char.toLower := by
  induction text generalizing before with
  | nil => rfl
  | cons c rest ih =>
      have small := steady c (.head _)
      have lowered := (lowered_lowercaseChar c).eq_of_isSteady (.inl small)
      rw [lowercaseAfter, if_neg (ne_sigma_of_isSteady small), lowered,
        ih fun other member => steady other (.tail _ member)]
      rfl

/-- `lowercase` is letter by letter on a text of steady characters and their capital letters. -/
theorem lowercase_eq_map (steady : ∀ c ∈ text, isSteady c.toLower = true) :
    lowercase text = text.map Char.toLower :=
  lowercaseAfter_eq_map steady

theorem Lowered.exists_mem {lowered : List Char} (shape : Lowered c lowered) :
    ∃ d, d ∈ lowered := by
  cases shape <;> exact ⟨_, .head _⟩

theorem isSteady_of_lowercaseAfter {before : List Char}
    (steady : ∀ d ∈ lowercaseAfter before text, isSteady d = true) :
    ∀ c ∈ text, isSteady c.toLower = true := by
  induction text generalizing before with
  | nil =>
      intro c member
      cases member
  | cons c rest ih =>
      simp only [lowercaseAfter, List.mem_append, or_imp, forall_and] at steady
      obtain ⟨first, others⟩ := steady
      have small : isSteady c.toLower = true := by
        by_cases sigma : c = 'Σ'
        · -- Neither form of the small sigma is steady.
          rw [if_pos sigma] at first
          split at first
          · exact absurd (first 'ς' (.head _)) (by decide)
          · exact absurd (first 'σ' (.head _)) (by decide)
        · rw [if_neg sigma] at first
          have shape := lowered_lowercaseChar c
          obtain ⟨d, member⟩ := shape.exists_mem
          have lowered := shape.eq_of_isSteady (.inr ⟨d, member, first d member⟩)
          rw [lowered] at first
          exact first c.toLower (.head _)
      intro other member
      rcases List.mem_cons.mp member with rfl | later
      · exact small
      · exact ih others other later

/-- If the lowercase form of a text is steady, it was made letter by letter. -/
theorem lowercase_eq_map_of_isSteady (steady : ∀ d ∈ lowercase text, isSteady d = true) :
    lowercase text = text.map Char.toLower :=
  lowercase_eq_map (isSteady_of_lowercaseAfter steady)

theorem map_toLower_of_not_isUpper (small : ∀ c ∈ text, c.isUpper = false) :
    text.map Char.toLower = text := by
  refine (List.map_congr_left fun c member => ?_).trans (List.map_id text)
  exact toLower_of_not_isUpper (small c member)

theorem eq_append_of_map_toLower {letterless after : List Char}
    (lowered : text.map Char.toLower = letterless ++ after)
    (noLetter : ∀ c ∈ letterless, c.isLower = false) :
    ∃ written, text = letterless ++ written ∧ written.map Char.toLower = after := by
  obtain ⟨first, second, rfl, firstLowered, secondLowered⟩ := List.map_eq_append_iff.mp lowered
  refine ⟨second, ?_, secondLowered⟩
  have same : first.map Char.toLower = first := by
    refine (List.map_congr_left fun c member => ?_).trans (List.map_id first)
    have low := noLetter c.toLower (firstLowered ▸ List.mem_map.mpr ⟨c, member, rfl⟩)
    exact toLower_of_not_isLower low
  rw [← firstLowered, same]

theorem isSteady_of_isBlank (blank : isBlank c = true) : isSteady c = true := by
  simp only [isBlank, Bool.or_eq_true, Bool.and_eq_true, decide_eq_true_eq, beq_iff_eq] at blank
  simp only [isSteady, inRanges, steadyRanges, List.any_cons, List.any_nil, Bool.or_eq_true,
    Bool.and_eq_true, decide_eq_true_eq, Bool.or_false]
  omega

theorem not_letter_of_isBlank (blank : isBlank c = true) :
    c.isUpper = false ∧ c.isLower = false := by
  simp only [isBlank, Bool.or_eq_true, Bool.and_eq_true, decide_eq_true_eq, beq_iff_eq] at blank
  rw [← Bool.not_eq_true, ← Bool.not_eq_true, isUpper_iff, isLower_iff]
  omega

end Curfew.Text
