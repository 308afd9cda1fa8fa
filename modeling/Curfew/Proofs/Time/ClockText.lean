import Curfew.Proofs.Text.Lowercase
import Curfew.Proofs.Text.Pieces
import Curfew.Time.ClockText

namespace Curfew.ClockText

open Text (AllBlank isBlank isSteady)

/-! How times of day may be written, and that no other text is read as one. -/

/-- Decimal digits, at least one, perhaps after a plus sign. -/
inductive Numeral : List Char → Nat → Prop where
  | plain {digits : List Char} (some : digits ≠ [])
      (each : ∀ c ∈ digits, Decimal.isDigit c = true) : Numeral digits (Decimal.value digits)
  | signed {digits : List Char} (some : digits ≠ [])
      (each : ∀ c ∈ digits, Decimal.isDigit c = true) :
      Numeral ('+' :: digits) (Decimal.value digits)

/-- What follows the minute: nothing on the clock of twenty-four hours, and otherwise the half of
the day in letters of either case, perhaps after blanks. -/
inductive Suffix : HourClock → List Char → Prop where
  | twentyFour : Suffix .twentyFour []
  | morning {blanks : List Char} {first second : Char} (blank : AllBlank blanks)
      (a : first = 'a' ∨ first = 'A') (m : second = 'm' ∨ second = 'M') :
      Suffix .morning (blanks ++ [first, second])
  | afternoon {blanks : List Char} {first second : Char} (blank : AllBlank blanks)
      (p : first = 'p' ∨ first = 'P') (m : second = 'm' ∨ second = 'M') :
      Suffix .afternoon (blanks ++ [first, second])

/-- The time that an hour and a minute name.  Twelve is the first hour of a half of the day. -/
inductive Names : HourClock → Nat → Nat → TimeOfDay → Prop where
  | twentyFour {hour minute : Nat} {time : TimeOfDay} (hourFits : hour ≤ 23)
      (minuteFits : minute ≤ 59) (exact : time.milliseconds = (hour * 60 + minute) * 60000) :
      Names .twentyFour hour minute time
  | morning {hour minute : Nat} {time : TimeOfDay} (hourFits : 1 ≤ hour ∧ hour ≤ 12)
      (minuteFits : minute ≤ 59)
      (exact : time.milliseconds = (hour % 12 * 60 + minute) * 60000) :
      Names .morning hour minute time
  | afternoon {hour minute : Nat} {time : TimeOfDay} (hourFits : 1 ≤ hour ∧ hour ≤ 12)
      (minuteFits : minute ≤ 59)
      (exact : time.milliseconds = ((hour % 12 + 12) * 60 + minute) * 60000) :
      Names .afternoon hour minute time

/-- The grammar of times of day. -/
inductive Written : List Char → TimeOfDay → Prop where
  | intro {before hourText minuteText suffix after : List Char} {clock : HourClock}
      {hour minute : Nat} {time : TimeOfDay} (beforeBlank : AllBlank before)
      (hourWritten : Numeral hourText hour) (minuteWritten : Numeral minuteText minute)
      (ended : Suffix clock suffix) (afterBlank : AllBlank after)
      (names : Names clock hour minute time) :
      Written (before ++ (hourText ++ ':' :: minuteText ++ suffix) ++ after) time

variable {text body suffix suffixText : List Char} {clock : HourClock} {hour minute n : Nat}
  {time : TimeOfDay}

theorem read?_eq_some_iff :
    Decimal.read? text = some n ↔
      (text ≠ [] ∧ ∀ c ∈ text, Decimal.isDigit c = true) ∧ Decimal.value text = n := by
  simp [Decimal.read?]

theorem readSmall?_eq_some_iff : readSmall? text = some n ↔ Numeral text n ∧ n ≤ 255 := by
  constructor
  · intro read
    unfold readSmall? at read
    obtain ⟨read, small⟩ := Option.filter_eq_some_iff.mp read
    refine ⟨?_, of_decide_eq_true small⟩
    split at read
    · obtain ⟨⟨some, each⟩, rfl⟩ := read?_eq_some_iff.mp read
      exact .signed some each
    · obtain ⟨⟨some, each⟩, rfl⟩ := read?_eq_some_iff.mp read
      exact .plain some each
  · rintro ⟨numeral, small⟩
    have read : readSmall? text = (some n).filter (· ≤ 255) := by
      cases numeral with
      | signed some each =>
          rw [← read?_eq_some_iff.mpr ⟨⟨some, each⟩, rfl⟩]
          rfl
      | plain some each =>
          rw [← read?_eq_some_iff.mpr ⟨⟨some, each⟩, rfl⟩]
          unfold readSmall?
          split
          · exact absurd (each '+' (.head _)) (by decide)
          · rfl
    rw [read, Option.filter_some, if_pos (decide_eq_true small)]

def figures : List Char := ['+', '0', '1', '2', '3', '4', '5', '6', '7', '8', '9']

theorem mem_figures_of_isDigit {c : Char} (digit : Decimal.isDigit c = true) : c ∈ figures := by
  have bounds : 48 ≤ c.toNat ∧ c.toNat ≤ 57 := by
    simp only [Decimal.isDigit, Decimal.digitValue?] at digit
    split at digit
    · next within => exact within
    · contradiction
  have all : ∀ d : Fin 10, Char.ofNat (48 + d) ∈ figures := by decide
  have found := all ⟨c.toNat - 48, by omega⟩
  have code : 48 + (c.toNat - 48) = c.toNat := by omega
  rwa [code, Char.ofNat_toNat] at found

theorem Numeral.ne_nil (numeral : Numeral text n) : text ≠ [] := by
  cases numeral with
  | plain some each => exact some
  | signed some each => simp

theorem Numeral.mem_figures (numeral : Numeral text n) : ∀ c ∈ text, c ∈ figures := by
  cases numeral with
  | plain some each => exact fun c member => mem_figures_of_isDigit (each c member)
  | signed some each =>
      intro c member
      rcases List.mem_cons.mp member with rfl | member
      · exact .head _
      · exact mem_figures_of_isDigit (each c member)

theorem milliseconds_of_minutes (hour minute : Nat) :
    hour * 3600000 + minute * 60000 = (hour * 60 + minute) * 60000 := by
  omega

theorem ofClock_eq_ok_iff :
    TimeOfDay.ofClock clock hour minute = .ok time ↔
      hour ≤ clock.lastHour ∧ minute ≤ 59 ∧
        time.milliseconds = ((hour + clock.firstHour) * 60 + minute) * 60000 := by
  rw [← milliseconds_of_minutes]
  constructor
  · intro made
    unfold TimeOfDay.ofClock at made
    split at made
    · next hourFits =>
        split at made
        · next minuteFits =>
            cases made
            exact ⟨hourFits, minuteFits, rfl⟩
        · contradiction
    · contradiction
  · rintro ⟨hourFits, minuteFits, exact⟩
    obtain ⟨milliseconds, within⟩ := time
    subst exact
    rw [TimeOfDay.ofClock, dif_pos hourFits, dif_pos minuteFits]

theorem mapError_eq_ok_iff {α ε δ : Type} {result : Except ε α} {f : ε → δ} {value : α} :
    result.mapError f = .ok value ↔ result = .ok value := by
  cases result <;> simp [Except.mapError]

theorem timeOn_half_eq_ok_iff (half : clock ≠ .twentyFour) :
    timeOn clock hour minute = .ok time ↔
      (1 ≤ hour ∧ hour ≤ 12) ∧ TimeOfDay.ofClock clock (hour % 12) minute = .ok time := by
  have shown : timeOn clock hour minute =
      if hour = 0 ∨ hour > 12 then .error .halfDayHour
      else (TimeOfDay.ofClock clock (hour % 12) minute).mapError .outOfRange := by
    cases clock with
    | twentyFour => contradiction
    | morning | afternoon => rfl
  rw [shown]
  by_cases beyond : hour = 0 ∨ hour > 12
  · rw [if_pos beyond]
    have outside : ¬ (1 ≤ hour ∧ hour ≤ 12) := by omega
    simp [outside]
  · rw [if_neg beyond, mapError_eq_ok_iff]
    have inside : 1 ≤ hour ∧ hour ≤ 12 := by omega
    simp [inside]

theorem timeOn_eq_ok_iff : timeOn clock hour minute = .ok time ↔ Names clock hour minute time := by
  cases clock with
  | twentyFour =>
      have shown : timeOn .twentyFour hour minute = .ok time ↔
          TimeOfDay.ofClock .twentyFour hour minute = .ok time := mapError_eq_ok_iff
      rw [shown, ofClock_eq_ok_iff]
      constructor
      · rintro ⟨hourFits, minuteFits, exact⟩
        exact .twentyFour hourFits minuteFits exact
      · rintro ⟨hourFits, minuteFits, exact⟩
        exact ⟨hourFits, minuteFits, exact⟩
  | morning =>
      rw [timeOn_half_eq_ok_iff (by simp), ofClock_eq_ok_iff]
      constructor
      · rintro ⟨hourFits, _, minuteFits, exact⟩
        exact .morning hourFits minuteFits exact
      · rintro (_ | ⟨hourFits, minuteFits, exact⟩)
        have within : hour % 12 ≤ HourClock.morning.lastHour :=
          Nat.le_of_lt_succ (Nat.mod_lt hour (by decide))
        exact ⟨hourFits, within, minuteFits, exact⟩
  | afternoon =>
      rw [timeOn_half_eq_ok_iff (by simp), ofClock_eq_ok_iff]
      constructor
      · rintro ⟨hourFits, _, minuteFits, exact⟩
        exact .afternoon hourFits minuteFits exact
      · rintro (_ | _ | ⟨hourFits, minuteFits, exact⟩)
        have within : hour % 12 ≤ HourClock.afternoon.lastHour :=
          Nat.le_of_lt_succ (Nat.mod_lt hour (by decide))
        exact ⟨hourFits, within, minuteFits, exact⟩

/-- What `splitClock` takes away from the end of a lowercase text. -/
def letters : HourClock → List Char
  | .twentyFour => []
  | .morning => ['a', 'm']
  | .afternoon => ['p', 'm']

theorem dropSuffix?_eq_some_iff : dropSuffix? suffix text = some body ↔ text = body ++ suffix := by
  unfold dropSuffix?
  split
  · next ends =>
      obtain ⟨before, rfl⟩ := List.isSuffixOf_iff_suffix.mp ends
      simp [eq_comm]
  · next notEnds =>
      constructor
      · intro none
        contradiction
      · rintro rfl
        exact absurd (List.isSuffixOf_iff_suffix.mpr (List.suffix_append body suffix)) notEnds

theorem dropSuffix?_eq_none {last other : Char} (ends : text.getLast? = some last)
    (endsOther : suffix.getLast? = some other) (different : last ≠ other) :
    dropSuffix? suffix text = none := by
  cases dropped : dropSuffix? suffix text with
  | none => rfl
  | some body =>
      rw [dropSuffix?_eq_some_iff.mp dropped, List.getLast?_append, endsOther] at ends
      exact absurd (Option.some.inj ends).symm different

theorem splitClock_spec (text : List Char) :
    ∃ blanks, text = (splitClock text).2 ++ blanks ++ letters (splitClock text).1 ∧
      AllBlank blanks ∧ ((splitClock text).1 = .twentyFour → blanks = []) := by
  unfold splitClock
  cases morning : dropSuffix? ['a', 'm'] text with
  | some body =>
      obtain ⟨blanks, whole, blank⟩ := Text.exists_trimEnd body
      refine ⟨blanks, ?_, blank, fun other => by contradiction⟩
      rw [← whole]
      exact dropSuffix?_eq_some_iff.mp morning
  | none =>
      cases afternoon : dropSuffix? ['p', 'm'] text with
      | some body =>
          obtain ⟨blanks, whole, blank⟩ := Text.exists_trimEnd body
          refine ⟨blanks, ?_, blank, fun other => by contradiction⟩
          rw [← whole]
          exact dropSuffix?_eq_some_iff.mp afternoon
      | none => exact ⟨[], by simp [letters], List.forall_mem_nil _, fun _ => rfl⟩

theorem isBlank_of_mem_figures : ∀ c ∈ figures, isBlank c = false := by
  have every : figures.all (fun c => !isBlank c) = true := by decide
  simpa using every

theorem splitClock_append {blanks : List Char} {last : Char} (ends : body.getLast? = some last)
    (figure : last ∈ figures) (blank : AllBlank blanks) (none : clock = .twentyFour → blanks = []) :
    splitClock (body ++ blanks ++ letters clock) = (clock, body) := by
  have trimmed : Text.trimEnd (body ++ blanks) = body :=
    Text.trimEnd_append ends (isBlank_of_mem_figures last figure) blank
  have kept (rest : List Char) : dropSuffix? rest (body ++ blanks ++ rest) = some (body ++ blanks) :=
    dropSuffix?_eq_some_iff.mpr rfl
  cases clock with
  | twentyFour =>
      have notM : last ≠ 'm' := by
        rintro rfl
        exact absurd figure (by decide)
      rw [none rfl, List.append_nil, letters, List.append_nil, splitClock,
        dropSuffix?_eq_none ends rfl notM, dropSuffix?_eq_none ends rfl notM]
  | morning => simp only [splitClock, letters, kept, trimmed]
  | afternoon =>
      have notMorning : dropSuffix? ['a', 'm'] (body ++ blanks ++ ['p', 'm']) = .none := by
        cases dropped : dropSuffix? ['a', 'm'] (body ++ blanks ++ ['p', 'm']) with
        | none => rfl
        | some other =>
            have whole := dropSuffix?_eq_some_iff.mp dropped
            exact absurd (List.append_inj' whole rfl).2 (by decide)
      simp only [splitClock, letters, notMorning, kept, trimmed]

theorem Suffix.lowered (suffix : Suffix clock suffixText) :
    ∃ blanks, suffixText.map Char.toLower = blanks ++ letters clock ∧ AllBlank blanks ∧
      (clock = .twentyFour → blanks = []) := by
  have same {blanks : List Char} (blank : AllBlank blanks) : blanks.map Char.toLower = blanks :=
    Text.map_toLower_of_not_isUpper fun c member =>
      (Text.not_letter_of_isBlank (blank c member)).1
  cases suffix with
  | twentyFour => exact ⟨[], rfl, List.forall_mem_nil _, fun _ => rfl⟩
  | @morning blanks first second blank a m =>
      refine ⟨blanks, ?_, blank, fun other => by contradiction⟩
      rw [List.map_append, same blank]
      rcases a with rfl | rfl <;> rcases m with rfl | rfl <;> rfl
  | @afternoon blanks first second blank p m =>
      refine ⟨blanks, ?_, blank, fun other => by contradiction⟩
      rw [List.map_append, same blank]
      rcases p with rfl | rfl <;> rcases m with rfl | rfl <;> rfl

theorem exists_pair_of_map_toLower {first second : Char}
    (lowered : text.map Char.toLower = [first, second]) :
    ∃ before after, text = [before, after] ∧ before.toLower = first ∧ after.toLower = second := by
  obtain ⟨before, rest, rfl, firstLowered, others⟩ := List.map_eq_cons_iff.mp lowered
  obtain ⟨after, rest, rfl, secondLowered, nothing⟩ := List.map_eq_cons_iff.mp others
  rw [List.map_eq_nil_iff.mp nothing]
  exact ⟨before, after, rfl, firstLowered, secondLowered⟩

theorem suffix_of_lowered {blanks : List Char} (lowered : text.map Char.toLower = letters clock)
    (blank : AllBlank blanks) (none : clock = .twentyFour → blanks = []) :
    Suffix clock (blanks ++ text) := by
  cases clock with
  | twentyFour =>
      rw [none rfl, List.map_eq_nil_iff.mp lowered]
      exact .twentyFour
  | morning =>
      obtain ⟨first, second, rfl, a, m⟩ := exists_pair_of_map_toLower lowered
      exact .morning blank (Text.eq_or_eq_of_toLower a) (Text.eq_or_eq_of_toLower m)
  | afternoon =>
      obtain ⟨first, second, rfl, p, m⟩ := exists_pair_of_map_toLower lowered
      exact .afternoon blank (Text.eq_or_eq_of_toLower p) (Text.eq_or_eq_of_toLower m)

variable {hourText minuteText : List Char}

theorem mem_body (hourWritten : Numeral hourText hour) (minuteWritten : Numeral minuteText minute) :
    ∀ c ∈ hourText ++ ':' :: minuteText, c ∈ ':' :: figures := by
  intro c member
  rcases List.mem_append.mp member with inHour | later
  · exact .tail _ (hourWritten.mem_figures c inHour)
  · rcases List.mem_cons.mp later with rfl | inMinute
    · exact .head _
    · exact .tail _ (minuteWritten.mem_figures c inMinute)

theorem getLast?_body (hourText : List Char) (minuteWritten : Numeral minuteText minute) :
    ∃ last, (hourText ++ ':' :: minuteText).getLast? = some last ∧ last ∈ figures := by
  have ends := List.getLast?_eq_some_getLast minuteWritten.ne_nil
  refine ⟨_, ?_, minuteWritten.mem_figures _ (List.getLast_mem minuteWritten.ne_nil)⟩
  rw [List.getLast?_append, List.getLast?_cons, ends]
  rfl

theorem pieces_body (hourWritten : Numeral hourText hour)
    (minuteWritten : Numeral minuteText minute) :
    Text.pieces ':' (hourText ++ ':' :: minuteText) = [hourText, minuteText] := by
  have unmarked {text : List Char} {n : Nat} (numeral : Numeral text n) : ':' ∉ text :=
    fun member => absurd (numeral.mem_figures ':' member) (by decide)
  rw [Text.pieces_append, Text.pieces_of_not_mem (unmarked hourWritten),
    Text.pieces_of_not_mem (unmarked minuteWritten)]
  rfl

theorem eq_body_of_pieces (cut : Text.pieces ':' body = [hourText, minuteText]) :
    body = hourText ++ ':' :: minuteText := by
  have whole := Text.intercalate_pieces ':' body
  rw [cut] at whole
  simpa [List.intercalate_cons_cons] using whole.symm

theorem read_eq_ok_iff_lowered :
    read text = .ok time ↔ ∃ clock hourText minuteText hour minute,
      splitClock (Text.lowercase (Text.trim text)) = (clock, hourText ++ ':' :: minuteText) ∧
        Numeral hourText hour ∧ Numeral minuteText minute ∧ Names clock hour minute time := by
  constructor
  · intro made
    rcases parts : splitClock (Text.lowercase (Text.trim text)) with ⟨clock, body⟩
    simp only [read, parts] at made
    split at made
    case h_1 hourText minuteText cut =>
      split at made
      case h_3 hour minute hourRead minuteRead =>
        obtain ⟨hourWritten, _⟩ := readSmall?_eq_some_iff.mp hourRead
        obtain ⟨minuteWritten, _⟩ := readSmall?_eq_some_iff.mp minuteRead
        rw [eq_body_of_pieces cut]
        exact ⟨clock, hourText, minuteText, hour, minute, rfl, hourWritten, minuteWritten,
          timeOn_eq_ok_iff.mp made⟩
      all_goals contradiction
    case h_2 => contradiction
  · rintro ⟨clock, hourText, minuteText, hour, minute, parts, hourWritten, minuteWritten, names⟩
    have small : hour ≤ 255 ∧ minute ≤ 255 := by
      cases names <;> omega
    have hourRead := readSmall?_eq_some_iff.mpr ⟨hourWritten, small.1⟩
    have minuteRead := readSmall?_eq_some_iff.mpr ⟨minuteWritten, small.2⟩
    simp only [read, parts, pieces_body hourWritten minuteWritten, hourRead, minuteRead]
    exact timeOn_eq_ok_iff.mpr names

theorem properties_of_mem_body :
    ∀ c ∈ ':' :: figures, isBlank c = false ∧ isSteady c = true ∧ c.isUpper = false ∧
      c.isLower = false := by
  have every : (':' :: figures).all
      (fun c => !isBlank c && (isSteady c && (!c.isUpper && !c.isLower))) = true := by decide
  simpa using every

theorem isSteady_letters (clock : HourClock) : ∀ c ∈ letters clock, isSteady c = true := by
  have every : (letters clock).all isSteady = true := by cases clock <;> decide
  exact List.all_eq_true.mp every

/-- A text that `read` accepts is in the grammar: `lowercase` has changed nothing but capital
letters. -/
theorem written_of_read (made : read text = .ok time) : Written text time := by
  obtain ⟨clock, hourText, minuteText, hour, minute, parts, hourWritten, minuteWritten, names⟩ :=
    read_eq_ok_iff_lowered.mp made
  obtain ⟨blanks, whole, blank, none⟩ := splitClock_spec (Text.lowercase (Text.trim text))
  rw [parts] at whole none
  have marks := mem_body hourWritten minuteWritten
  have steady : ∀ c ∈ Text.lowercase (Text.trim text), isSteady c = true := by
    intro c member
    rw [whole] at member
    rcases List.mem_append.mp member with member | inLetters
    · rcases List.mem_append.mp member with inBody | inBlanks
      · exact (properties_of_mem_body c (marks c inBody)).2.1
      · exact Text.isSteady_of_isBlank (blank c inBlanks)
    · exact isSteady_letters clock c inLetters
  have noLetter : ∀ c ∈ hourText ++ ':' :: minuteText ++ blanks, c.isLower = false := by
    intro c member
    rcases List.mem_append.mp member with inBody | inBlanks
    · exact (properties_of_mem_body c (marks c inBody)).2.2.2
    · exact (Text.not_letter_of_isBlank (blank c inBlanks)).2
  rw [Text.lowercase_eq_map_of_isSteady steady] at whole
  obtain ⟨rest, trimmed, restLowered⟩ := Text.eq_append_of_map_toLower whole noLetter
  obtain ⟨before, after, surrounded, beforeBlank, afterBlank⟩ := Text.exists_trim text
  rw [trimmed, List.append_assoc (hourText ++ _)] at surrounded
  rw [surrounded]
  exact .intro beforeBlank hourWritten minuteWritten (suffix_of_lowered restLowered blank none)
    afterBlank names

theorem exists_head?_body (hourWritten : Numeral hourText hour) (rest : List Char) :
    ∃ first, (hourText ++ rest).head? = some first ∧ isBlank first = false := by
  obtain ⟨first, others, shape⟩ := List.exists_cons_of_ne_nil hourWritten.ne_nil
  have figure := hourWritten.mem_figures first (shape ▸ .head _)
  exact ⟨first, by rw [shape]; rfl, isBlank_of_mem_figures first figure⟩

theorem Suffix.exists_getLast? {last : Char} (suffix : Suffix clock suffixText)
    (ends : body.getLast? = some last) (figure : last ∈ figures) :
    ∃ final, (body ++ suffixText).getLast? = some final ∧ isBlank final = false := by
  cases suffix with
  | twentyFour => exact ⟨last, by rw [List.append_nil, ends], isBlank_of_mem_figures last figure⟩
  | @morning blanks first second blank a m | @afternoon blanks first second blank p m =>
      refine ⟨second, by simp, ?_⟩
      rcases m with rfl | rfl <;> rfl

theorem Suffix.lowercase_append (suffix : Suffix clock suffixText)
    (marks : ∀ c ∈ body, c ∈ ':' :: figures) :
    Text.lowercase (body ++ suffixText) = body ++ suffixText.map Char.toLower := by
  obtain ⟨blanks, lowered, blank, _⟩ := suffix.lowered
  have same : body.map Char.toLower = body :=
    Text.map_toLower_of_not_isUpper fun c member => (properties_of_mem_body c (marks c member)).2.2.1
  rw [Text.lowercase_eq_map, List.map_append, same]
  intro c member
  rcases List.mem_append.mp member with inBody | inSuffix
  · obtain ⟨_, steady, notUpper, _⟩ := properties_of_mem_body c (marks c inBody)
    rwa [Text.toLower_of_not_isUpper notUpper]
  · have small : c.toLower ∈ blanks ++ letters clock :=
      lowered ▸ List.mem_map.mpr ⟨c, inSuffix, rfl⟩
    rcases List.mem_append.mp small with inBlanks | inLetters
    · exact Text.isSteady_of_isBlank (blank _ inBlanks)
    · exact isSteady_letters clock _ inLetters

theorem read_of_written (written : Written text time) : read text = .ok time := by
  obtain ⟨beforeBlank, hourWritten, minuteWritten, ended, afterBlank, names⟩ := written
  rename_i before hourText minuteText suffixText after clock hour minute
  obtain ⟨first, starts, firstVisible⟩ :=
    exists_head?_body hourWritten (':' :: minuteText ++ suffixText)
  obtain ⟨last, ends, figure⟩ := getLast?_body hourText minuteWritten
  obtain ⟨final, finished, finalVisible⟩ := ended.exists_getLast? ends figure
  obtain ⟨blanks, lowered, blank, none⟩ := ended.lowered
  have trimmed := Text.trim_append beforeBlank (by rw [List.append_assoc]; exact starts) firstVisible
    finished finalVisible afterBlank
  refine read_eq_ok_iff_lowered.mpr ⟨clock, hourText, minuteText, hour, minute, ?_, hourWritten,
    minuteWritten, names⟩
  rw [trimmed, ended.lowercase_append (mem_body hourWritten minuteWritten), lowered,
    ← List.append_assoc, splitClock_append ends figure blank none]

theorem read_eq_ok_iff : read text = .ok time ↔ Written text time :=
  ⟨written_of_read, read_of_written⟩

/-- `read` gives a time for exactly those texts that the grammar allows for this time, and an error
for every other text. -/
theorem read_exact (text : List Char) :
    (∀ time, read text = .ok time ↔ Written text time) ∧
      ((∃ cause, read text = .error cause) ↔ ∀ time, ¬ Written text time) := by
  refine ⟨fun _ => read_eq_ok_iff, ?_⟩
  simp only [← read_eq_ok_iff]
  cases read text with
  | ok time => simp
  | error cause => simp

end Curfew.ClockText
