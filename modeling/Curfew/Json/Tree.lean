import Curfew.Json.Token

namespace Curfew.Json

/-! The structure of a JSON text.  Members of an object stand in the order in which
they are written, repeated keys included. -/

inductive Tree where
  | null
  | bool (value : Bool)
  | number (literal : NumberLiteral)
  | string (literal : StringLiteral)
  | array (items : List Tree)
  | object (members : List (StringLiteral × Tree))
deriving Repr

instance : Inhabited Tree := ⟨.null⟩

mutual

/-- The tree at the front of the tokens, and what follows it. -/
def readTree? : Nat → List Token → Option (Tree × List Token)
  | 0, _ => none
  | _ + 1, [] => none
  | fuel + 1, token :: rest =>
      match token with
      | .null => some (.null, rest)
      | .bool value => some (.bool value, rest)
      | .number literal => some (.number literal, rest)
      | .string literal => some (.string literal, rest)
      | .openBracket =>
          match rest with
          | .closeBracket :: rest => some (.array [], rest)
          | _ => (readItems? fuel rest).map fun (items, rest) => (.array items, rest)
      | .openBrace =>
          match rest with
          | .closeBrace :: rest => some (.object [], rest)
          | _ => (readMembers? fuel rest).map fun (members, rest) => (.object members, rest)
      | _ => none

/-- The items of an array up to its closing bracket. -/
def readItems? : Nat → List Token → Option (List Tree × List Token)
  | 0, _ => none
  | fuel + 1, tokens => do
      let (item, rest) ← readTree? fuel tokens
      match rest with
      | .closeBracket :: rest => some ([item], rest)
      | .comma :: rest =>
          (readItems? fuel rest).map fun (items, rest) => (item :: items, rest)
      | _ => none

/-- The members of an object up to its closing brace. -/
def readMembers? : Nat → List Token → Option (List (StringLiteral × Tree) × List Token)
  | 0, _ => none
  | fuel + 1, .string key :: .colon :: tokens => do
      let (value, rest) ← readTree? fuel tokens
      match rest with
      | .closeBrace :: rest => some ([(key, value)], rest)
      | .comma :: rest =>
          (readMembers? fuel rest).map fun (members, rest) => ((key, value) :: members, rest)
      | _ => none
  | _ + 1, _ => none

end

/-- The tree of a text that holds exactly one.  Along any chain of calls every other one
uses up a token. -/
def Tree.ofText? (text : String) : Option Tree := do
  let tokens ← tokens? text.toList
  match ← readTree? (2 * tokens.length + 1) tokens with
  | (tree, []) => some tree
  | (_, _ :: _) => none

end Curfew.Json
