import Curfew.Number.Hexadecimal

namespace Curfew.FreshId

/-! Ids for rules that are given none: hexadecimal digits in five groups, random but for the
first digit of the third group and two bits of the first digit of the fourth. -/

/-- The id made of 128 bits. -/
def ofBits (bits : Nat) : String :=
  let digits := Hexadecimal.padded 32 (bits % Nat.pow 2 128)
  let group (start size : Nat) := (digits.drop start).take size
  let variant := Hexadecimal.digitChar (8 + bits / Nat.pow 2 60 % 4)
  String.ofList <|
    group 0 8 ++ '-' :: group 8 4 ++ '-' :: '4' :: group 13 3 ++
      '-' :: variant :: group 17 3 ++ '-' :: group 20 12

/-- Different positions give different ids, whatever the seed. -/
def ofSeed (seed position : Nat) : String :=
  ofBits (seed + position)

/-- What may stand at each place of an id: any digit for `x`, one of four for `v`. -/
def form : List Char := "xxxxxxxx-xxxx-4xxx-vxxx-xxxxxxxxxxxx".toList

def fits (c place : Char) : Bool :=
  match place with
  | 'x' => (Hexadecimal.digitValue? c).isSome && !c.isUpper
  | 'v' => c == '8' || c == '9' || c == 'a' || c == 'b'
  | mark => c == mark

/-- Whether a text begins with an id. -/
def leads (text : List Char) : Bool :=
  let head := text.take form.length
  head.length == form.length && (List.zipWith fits head form).all id

/-- The text with a word in the place of every id. -/
def masked (word : List Char) : List Char → List Char
  | [] => []
  | c :: rest =>
      if leads (c :: rest) then word ++ masked word (rest.drop (form.length - 1))
      else c :: masked word rest
termination_by text => text.length
decreasing_by all_goals simp only [List.length_drop, List.length_cons]; omega

end Curfew.FreshId
