import Curfew.Proofs.Json.Scalar
import Curfew.Proofs.Table

namespace Curfew.Json

/-! Values are read as they are written.  A text goes through tokens and a tree on its
way back, and every value has tokens and a tree of its own there. -/

/-- A value that its text gives back: integers fit into 64 bits, members are in ascending order, and
the depth is bounded. -/
inductive Plain : Nat → Value → Prop where
  | null {depth : Nat} : Plain depth .null
  | bool {depth : Nat} (value : Bool) : Plain depth (.bool value)
  | integer {depth : Nat} {n : Int} (fits : -9223372036854775808 ≤ n ∧ n < 18446744073709551616) :
      Plain depth (.number (.integer n))
  | string {depth : Nat} (text : String) : Plain depth (.string text)
  | array {depth : Nat} {items : List Value} (each : ∀ item ∈ items, Plain depth item) :
      Plain (depth + 1) (.array items)
  | object {depth : Nat} {members : List (String × Value)}
      (ascending : Entries.Ascending members) (each : ∀ member ∈ members, Plain depth member.2) :
      Plain (depth + 1) (.object members)

variable {depth : Nat} {text rest : List Char} {tokens more : List Token}

/-- The text has these tokens, with any fuel that is enough for its length. -/
def Scans (text : List Char) (tokens : List Token) : Prop :=
  ∀ fuel, text.length ≤ fuel → scanAll? fuel text = some tokens

theorem scans_nil : Scans [] [] := fun fuel _ => by cases fuel <;> rfl

theorem Scans.token {first : Char} {token : Token} (scans : Scans rest tokens)
    (scanned : scanToken? (first :: text) = some (token, rest))
    (visible : isSpace first = false) (shorter : rest.length ≤ text.length) :
    Scans (first :: text) (token :: tokens) := by
  intro fuel enough
  cases fuel with
  | zero => contradiction
  | succ fuel =>
      have room : rest.length ≤ fuel := by
        rw [List.length_cons] at enough
        omega
      simp [scanAll?, visible, scanned, scans fuel room]

theorem Scans.string {literal : StringLiteral} (scans : Scans rest tokens)
    (text : String)
    (scanned : scanString? (text.toList.flatMap escapeChar ++ '"' :: rest) =
      some (literal, rest)) :
    Scans (stringChars text ++ rest) (.string literal :: tokens) := by
  have written : stringChars text ++ rest =
      '"' :: (text.toList.flatMap escapeChar ++ '"' :: rest) := by simp [stringChars]
  rw [written]
  refine scans.token ?_ rfl ?_
  · rw [scanToken?, scanned]
    rfl
  · simp only [List.length_append, List.length_cons]
    omega

/-- The tokens and the tree as which a value is read. -/
structure Reading (depth : Nat) (value : Value) (tokens : List Token) (tree : Tree) : Prop where
  scanned : ∀ {rest more}, Ends rest → Scans rest more →
    Scans (value.chars ++ rest) (tokens ++ more)
  opens : ∃ first later, tokens = first :: later ∧ first ≠ .closeBracket
  read : ∀ fuel more, 2 * tokens.length ≤ fuel →
    readTree? fuel (tokens ++ more) = some (tree, more)
  meant : Value.ofTree? depth tree = some value

theorem reading_scalar {value : Value} {token : Token} {tree : Tree}
    (scanned : ∀ {rest more}, Ends rest → Scans rest more →
      Scans (value.chars ++ rest) (token :: more))
    (opens : token ≠ .closeBracket)
    (read : ∀ fuel more, readTree? (fuel + 1) (token :: more) = some (tree, more))
    (meant : Value.ofTree? depth tree = some value) : Reading depth value [token] tree where
  scanned := scanned
  opens := ⟨token, [], rfl, opens⟩
  read := fun fuel more enough => by
    cases fuel with
    | zero => contradiction
    | succ fuel => exact read fuel more
  meant := meant

theorem reading_null : Reading depth .null [.null] .null :=
  reading_scalar (fun _ scans => scans.token rfl rfl (Nat.le_add_right _ 3)) (by simp)
    (fun _ _ => rfl) (by rw [Value.ofTree?])

theorem reading_bool (value : Bool) : Reading depth (.bool value) [.bool value] (.bool value) := by
  cases value with
  | false =>
      exact reading_scalar (fun _ scans => scans.token rfl rfl (Nat.le_add_right _ 4)) (by simp)
        (fun _ _ => rfl) (by rw [Value.ofTree?])
  | true =>
      exact reading_scalar (fun _ scans => scans.token rfl rfl (Nat.le_add_right _ 3)) (by simp)
        (fun _ _ => rfl) (by rw [Value.ofTree?])

theorem reading_integer {n : Int} (fits : -9223372036854775808 ≤ n ∧ n < 18446744073709551616) :
    ∃ literal, Reading depth (.number (.integer n)) [.number literal] (.number literal) := by
  obtain ⟨literal, scanned, meant⟩ := integer_read fits
  obtain ⟨first, later, written, visible⟩ := intDigits_eq_cons n
  refine ⟨literal, reading_scalar (fun {rest _} ends scans => ?_) (by simp) (fun _ _ => rfl)
    (by simp [Value.ofTree?, meant])⟩
  have token := scanned rest ends
  rw [written, List.cons_append] at token
  rw [Value.chars, numberChars, written, List.cons_append]
  refine scans.token token visible ?_
  rw [List.length_append]
  omega

theorem reading_string (text : String) :
    ∃ literal, Reading depth (.string text) [.string literal] (.string literal) := by
  obtain ⟨literal, scanned, meant⟩ := string_read text.toList
  exact ⟨literal, reading_scalar (fun _ scans => scans.string text (scanned _)) (by simp)
    (fun _ _ => rfl) (by simp [Value.ofTree?, stringOf?, meant])⟩

theorem ends_itemsChars (items : List Value) (rest : List Char) :
    Ends (itemsChars items ++ rest) := by
  intro c head
  cases items with
  | nil | cons =>
      cases Option.some.inj head
      decide

/-- The same of the items after the first one. -/
structure ItemsReading (depth : Nat) (items : List Value) (tokens : List Token)
    (trees : List Tree) : Prop where
  scanned : ∀ {rest more}, Scans rest more → Scans (itemsChars items ++ rest) (tokens ++ more)
  read : ∀ {first firstTokens firstTree}, Reading depth first firstTokens firstTree →
    ∀ fuel more, 2 * (firstTokens.length + tokens.length) ≤ fuel →
      readItems? fuel (firstTokens ++ (tokens ++ more)) = some (firstTree :: trees, more)
  meant : trees.mapM (Value.ofTree? depth) = some items

theorem itemsReading_nil : ItemsReading depth [] [.closeBracket] [] where
  scanned := fun scans => scans.token rfl rfl (by simp)
  read := fun {first firstTokens firstTree} reading fuel more enough => by
    cases fuel with
    | zero =>
        simp only [List.length_cons] at enough
        omega
    | succ fuel =>
        have room : 2 * firstTokens.length ≤ fuel := by
          simp only [List.length_cons] at enough
          omega
        simp [readItems?, reading.read fuel _ room]
  meant := rfl

theorem ItemsReading.cons {item : Value} {items : List Value} {itemTokens : List Token}
    {itemTree : Tree} {trees : List Tree} (others : ItemsReading depth items tokens trees)
    (reading : Reading depth item itemTokens itemTree) :
    ItemsReading depth (item :: items) (.comma :: (itemTokens ++ tokens)) (itemTree :: trees) where
  scanned := fun {rest more} scans => by
    have scanned := reading.scanned (ends_itemsChars items rest) (others.scanned scans)
    simp only [itemsChars, List.cons_append, List.append_assoc]
    exact scanned.token rfl rfl (Nat.le_refl _)
  read := fun {first firstTokens firstTree} before fuel more enough => by
    cases fuel with
    | zero =>
        simp only [List.length_cons] at enough
        omega
    | succ fuel =>
        simp only [List.length_cons, List.length_append] at enough
        have room : 2 * firstTokens.length ≤ fuel := by omega
        have later := others.read reading fuel more (by omega)
        simp [readItems?, before.read fuel _ room, later]
  meant := by
    simp [reading.meant, others.meant]

theorem exists_itemsReading {items : List Value}
    (each : ∀ item ∈ items, ∃ tokens tree, Reading depth item tokens tree) :
    ∃ tokens trees, ItemsReading depth items tokens trees := by
  induction items with
  | nil => exact ⟨_, _, itemsReading_nil⟩
  | cons item items ih =>
      obtain ⟨itemTokens, itemTree, reading⟩ := each item (.head _)
      obtain ⟨tokens, trees, others⟩ := ih fun other member => each other (.tail _ member)
      exact ⟨_, _, others.cons reading⟩

theorem reading_array {items : List Value}
    (each : ∀ item ∈ items, ∃ tokens tree, Reading depth item tokens tree) :
    ∃ tokens tree, Reading (depth + 1) (.array items) tokens tree := by
  cases items with
  | nil =>
      refine ⟨[.openBracket, .closeBracket], .array [], ?_, ⟨_, _, rfl, by simp⟩, ?_, rfl⟩
      · intro rest more _ scans
        have closed : Scans (']' :: rest) (.closeBracket :: more) :=
          scans.token rfl rfl (Nat.le_refl _)
        exact closed.token rfl rfl (Nat.le_refl _)
      · intro fuel more enough
        cases fuel with
        | zero => contradiction
        | succ fuel => rfl
  | cons item items =>
      obtain ⟨itemTokens, itemTree, reading⟩ := each item (.head _)
      obtain ⟨tokens, trees, others⟩ :=
        exists_itemsReading fun other member => each other (.tail _ member)
      refine ⟨.openBracket :: (itemTokens ++ tokens), .array (itemTree :: trees), ?_,
        ⟨_, _, rfl, by simp⟩, ?_, ?_⟩
      · intro rest more _ scans
        have scanned := reading.scanned (ends_itemsChars items rest) (others.scanned scans)
        simp only [Value.chars, List.cons_append, List.append_assoc]
        exact scanned.token rfl rfl (Nat.le_refl _)
      · intro fuel more enough
        cases fuel with
        | zero => contradiction
        | succ fuel =>
            simp only [List.length_cons, List.length_append] at enough
            have inside := others.read reading fuel more (by omega)
            obtain ⟨first, later, same, notClosed⟩ := reading.opens
            rw [same] at inside ⊢
            simp only [List.cons_append, List.append_assoc] at inside ⊢
            simp [readTree?, inside, notClosed]
      · simp [Value.ofTree?, reading.meant, others.meant]

theorem ends_membersChars (members : List (String × Value)) (rest : List Char) :
    Ends (membersChars members ++ rest) := by
  intro c head
  cases members with
  | nil | cons =>
      cases Option.some.inj head
      decide

def memberOf? (depth : Nat) (member : StringLiteral × Tree) : Option (String × Value) := do
  some ((← stringOf? member.1), (← Value.ofTree? depth member.2))

theorem ofTree?_object (depth : Nat) (members : List (StringLiteral × Tree)) :
    Value.ofTree? (depth + 1) (.object members) =
      (members.mapM (memberOf? depth)).map .object := by
  rw [Value.ofTree?]
  rfl

/-- The same of the members after the first one. -/
structure MembersReading (depth : Nat) (members : List (String × Value)) (tokens : List Token)
    (trees : List (StringLiteral × Tree)) : Prop where
  scanned : ∀ {rest more}, Scans rest more → Scans (membersChars members ++ rest) (tokens ++ more)
  read : ∀ {key first firstTokens firstTree}, Reading depth first firstTokens firstTree →
    ∀ fuel more, 2 * (firstTokens.length + tokens.length) ≤ fuel →
      readMembers? fuel (.string key :: .colon :: (firstTokens ++ (tokens ++ more))) =
        some ((key, firstTree) :: trees, more)
  meant : trees.mapM (memberOf? depth) = some members

theorem membersReading_nil : MembersReading depth [] [.closeBrace] [] where
  scanned := fun scans => scans.token rfl rfl (Nat.le_refl _)
  read := fun {key first firstTokens firstTree} reading fuel more enough => by
    cases fuel with
    | zero =>
        simp only [List.length_cons] at enough
        omega
    | succ fuel =>
        have room : 2 * firstTokens.length ≤ fuel := by
          simp only [List.length_cons] at enough
          omega
        simp [readMembers?, reading.read fuel _ room]
  meant := rfl

section Members

variable {key : String} {literal : StringLiteral} {value : Value}
  {members : List (String × Value)} {valueTokens : List Token} {valueTree : Tree}
  {trees : List (StringLiteral × Tree)}

theorem MembersReading.scanned_member (others : MembersReading depth members tokens trees)
    (keyScanned : ∀ rest, scanString? (key.toList.flatMap escapeChar ++ '"' :: rest) =
      some (literal, rest))
    (reading : Reading depth value valueTokens valueTree) (scans : Scans rest more) :
    Scans (stringChars key ++ ':' :: (value.chars ++ (membersChars members ++ rest)))
      (.string literal :: .colon :: (valueTokens ++ (tokens ++ more))) := by
  have scanned := reading.scanned (ends_membersChars members rest) (others.scanned scans)
  have colon : Scans (':' :: (value.chars ++ (membersChars members ++ rest)))
      (.colon :: (valueTokens ++ (tokens ++ more))) := scanned.token rfl rfl (Nat.le_refl _)
  exact colon.string key (keyScanned _)

theorem MembersReading.cons (others : MembersReading depth members tokens trees)
    (keyScanned : ∀ rest, scanString? (key.toList.flatMap escapeChar ++ '"' :: rest) =
      some (literal, rest))
    (keyMeant : charsOf? literal = some key.toList)
    (reading : Reading depth value valueTokens valueTree) :
    MembersReading depth ((key, value) :: members)
      (.comma :: .string literal :: .colon :: (valueTokens ++ tokens))
      ((literal, valueTree) :: trees) where
  scanned := fun {rest more} scans => by
    have scanned := others.scanned_member keyScanned reading scans
    simp only [membersChars, List.cons_append, List.append_assoc]
    exact scanned.token rfl rfl (Nat.le_refl _)
  read := fun {earlier first firstTokens firstTree} before fuel more enough => by
    cases fuel with
    | zero =>
        simp only [List.length_cons] at enough
        omega
    | succ fuel =>
        simp only [List.length_cons, List.length_append] at enough
        have room : 2 * firstTokens.length ≤ fuel := by omega
        have later : readMembers? fuel
            (.string literal :: .colon :: (valueTokens ++ (tokens ++ more))) =
            some ((literal, valueTree) :: trees, more) :=
          others.read reading fuel more (by omega)
        simp [readMembers?, before.read fuel _ room, later]
  meant := by
    simp [memberOf?, stringOf?, keyMeant, reading.meant, others.meant]

end Members

theorem exists_membersReading {members : List (String × Value)}
    (each : ∀ member ∈ members, ∃ tokens tree, Reading depth member.2 tokens tree) :
    ∃ tokens trees, MembersReading depth members tokens trees := by
  induction members with
  | nil => exact ⟨_, _, membersReading_nil⟩
  | cons member members ih =>
      obtain ⟨valueTokens, valueTree, reading⟩ := each member (.head _)
      obtain ⟨tokens, trees, others⟩ := ih fun other inRest => each other (.tail _ inRest)
      obtain ⟨literal, keyScanned, keyMeant⟩ := string_read member.1.toList
      exact ⟨_, _, others.cons keyScanned keyMeant reading⟩

theorem reading_object {members : List (String × Value)}
    (each : ∀ member ∈ members, ∃ tokens tree, Reading depth member.2 tokens tree) :
    ∃ tokens tree, Reading (depth + 1) (.object members) tokens tree := by
  cases members with
  | nil =>
      refine ⟨[.openBrace, .closeBrace], .object [], ?_, ⟨_, _, rfl, by simp⟩, ?_, rfl⟩
      · intro rest more _ scans
        have closed : Scans ('\x7d' :: rest) (.closeBrace :: more) :=
          scans.token rfl rfl (Nat.le_refl _)
        exact closed.token rfl rfl (Nat.le_refl _)
      · intro fuel more enough
        cases fuel with
        | zero => contradiction
        | succ fuel => rfl
  | cons member members =>
      obtain ⟨key, value⟩ := member
      obtain ⟨valueTokens, valueTree, reading⟩ := each (key, value) (.head _)
      obtain ⟨tokens, trees, others⟩ :=
        exists_membersReading fun other inRest => each other (.tail _ inRest)
      obtain ⟨literal, keyScanned, keyMeant⟩ := string_read key.toList
      refine ⟨.openBrace :: .string literal :: .colon :: (valueTokens ++ tokens),
        .object ((literal, valueTree) :: trees), ?_, ⟨_, _, rfl, by simp⟩, ?_, ?_⟩
      · intro rest more _ scans
        have scanned := others.scanned_member keyScanned reading scans
        simp only [Value.chars, List.cons_append, List.append_assoc]
        exact scanned.token rfl rfl (Nat.le_refl _)
      · intro fuel more enough
        cases fuel with
        | zero => contradiction
        | succ fuel =>
            simp only [List.length_cons, List.length_append] at enough
            have inside : readMembers? fuel
                (.string literal :: .colon :: (valueTokens ++ (tokens ++ more))) =
                some ((literal, valueTree) :: trees, more) :=
              others.read reading fuel more (by omega)
            simp [readTree?, inside]
      · rw [ofTree?_object]
        simp [memberOf?, stringOf?, keyMeant, reading.meant, others.meant]

theorem Plain.reading {value : Value} (plain : Plain depth value) :
    ∃ tokens tree, Reading depth value tokens tree := by
  -- A reading holds in front of anything that may follow, so parts are read one by one.
  induction plain with
  | null => exact ⟨_, _, reading_null⟩
  | bool value => exact ⟨_, _, reading_bool value⟩
  | integer fits =>
      obtain ⟨literal, reading⟩ := reading_integer fits
      exact ⟨_, _, reading⟩
  | string text =>
      obtain ⟨literal, reading⟩ := reading_string text
      exact ⟨_, _, reading⟩
  | array _ each => exact reading_array each
  | object _ _ each => exact reading_object each

theorem sortedItems_eq {items : List Value} (each : ∀ item ∈ items, item.sorted = item) :
    sortedItems items = items := by
  induction items with
  | nil => rfl
  | cons item items ih =>
      rw [sortedItems, each item (.head _), ih fun other member => each other (.tail _ member)]

theorem sortedMembers_eq {members : List (String × Value)}
    (each : ∀ member ∈ members, member.2.sorted = member.2) :
    sortedMembers members = members := by
  induction members with
  | nil => rfl
  | cons member members ih =>
      rw [sortedMembers, each member (.head _), ih fun other inRest => each other (.tail _ inRest)]

theorem Plain.sorted {value : Value} (plain : Plain depth value) : value.sorted = value := by
  induction plain with
  | null | bool | integer | string => rfl
  | array _ each => rw [Value.sorted, sortedItems_eq each]
  | object ascending _ each =>
      rw [Value.sorted, sortedMembers_eq each, Table.entries_ofList ascending]

theorem Plain.exists_tree {value : Value} (plain : Plain depth value) :
    ∃ tree, Tree.ofText? value.text = some tree ∧ Value.ofTree? depth tree = some value := by
  obtain ⟨tokens, tree, reading⟩ := plain.reading
  have ends : Ends [] := fun c head => by cases head
  have scanned := reading.scanned ends scans_nil
  simp only [List.append_nil] at scanned
  have found : tokens? value.chars = some tokens := scanned _ (Nat.le_refl _)
  have read := reading.read (2 * tokens.length + 1) [] (Nat.le_succ _)
  simp only [List.append_nil] at read
  refine ⟨tree, ?_, reading.meant⟩
  simp [Tree.ofText?, Value.text, plain.sorted, found, read]

theorem Value.ofText?_text {value : Value} (plain : Plain Value.maximumDepth value) :
    Value.ofText? value.text = some value := by
  obtain ⟨tree, found, meant⟩ := plain.exists_tree
  rw [Value.ofText?, found]
  exact meant

end Curfew.Json
