import EpubLibrary.Xml.Name

/-!
# Attributes of processing instructions

`instructionAttributes` finds what looks like attributes in the text of an instruction: a blank, a
word, an equals sign and a quoted value.
-/

namespace EpubLibrary.Xml

/-- May the character stand in a word? -/
def isWordChar (c : Char) : Bool := c.isAlphanum || c = '_' || (128 ≤ c.toNat && !Text.isBlank c)

/-- A quoted value and what follows it. -/
def quotedValue? : List Char → Option (List Char × List Char)
  | [] => none
  | q :: s =>
    let value := s.takeWhile (· ≠ q)
    match s.drop value.length with
    | [] => none
    | _ :: rest => if q = '\'' ∨ q = '"' then some (value, rest) else none

/-- An attribute behind the blank before it, and what follows it. -/
def instructionAttribute? (s : List Char) : Option ((String × String) × List Char) :=
  let s := s.dropWhile Text.isBlank
  let word := s.takeWhile isWordChar
  match word, (s.drop word.length).dropWhile Text.isBlank with
  | _ :: _, '=' :: rest =>
    (quotedValue? (rest.dropWhile Text.isBlank)).map fun (value, rest) =>
      ((String.ofList word, String.ofList value), rest)
  | _, _ => none

/-- The attributes from a place on, last first. -/
def attributesFrom : (fuel : Nat) → List (String × String) → List Char → List (String × String)
  | 0, found, _ => found
  | _, found, [] => found
  | fuel + 1, found, c :: s =>
    if Text.isBlank c then
      match instructionAttribute? s with
      | some (a, rest) => attributesFrom fuel (a :: found) rest
      | none => attributesFrom fuel found s
    else attributesFrom fuel found s

/-- The attributes in the text of an instruction, last first. -/
def instructionAttributes (s : List Char) : List (String × String) :=
  attributesFrom (s.length + 1) [] (' ' :: s)

end EpubLibrary.Xml
