import EpubLibrary.Xml.Reference

/-!
# Start tags

`readStartTag?` reads a start tag from behind its opening bracket: its name, its attributes as they
are written, how it ends, and whether it is free of errors. Reading goes on after an error where it
can: an attribute without a value is left out, and what is no attribute ends the tag before its
closing bracket.
-/

namespace EpubLibrary.Xml

/-- Replacement texts of the declared entities. -/
abbrev Entities := List (String × List Char)

/-- How a start tag ends. -/
inductive TagEnd where
  /-- at a bracket: content follows -/
  | opened
  /-- at a slash and a bracket: the element is empty -/
  | empty
  /-- before something that does not belong there -/
  | broken
  deriving DecidableEq

structure StartTag where
  name : Qualified
  attributes : List (Qualified × String)
  finish : TagEnd
  sound : Bool

/-- The text of an entity within an attribute; an unknown one has none. -/
def entityText (entities : Entities) (name : String) : List Char :=
  match predefined? name with
  | some c => [c]
  | none => ((entities.find? (·.1 = name)).map (·.2)).getD []

/-- Is the entity known? -/
def isKnown (entities : Entities) (name : String) : Bool :=
  (predefined? name).isSome || entities.any (·.1 = name)

/-- An attribute value: none if it does not end as it should; whether it is free of errors. -/
structure ValueText where
  value : Option (List Char)
  sound : Bool
  rest : List Char

/-- Puts characters in front of a value. -/
def ValueText.add (cs : List Char) (ok : Bool) (v : ValueText) : ValueText :=
  { v with value := v.value.map (cs ++ ·), sound := v.sound && ok }

/-- Reads the value of an attribute up to its closing quote. Blanks are spaces. -/
def readValue (entities : Entities) (quote : Char) : (fuel : Nat) → List Char → ValueText
  | _, [] => ⟨none, false, []⟩
  | 0, s => ⟨none, false, s⟩
  | fuel + 1, c :: s =>
    if c = quote then ⟨some [], true, s⟩
    else if c = '<' ∨ !isChar c then ⟨none, false, c :: s⟩
    else if c = '&' then
      match readReference s with
      | (.char d, rest) => (readValue entities quote fuel rest).add [d] true
      | (.entity name, rest) =>
        (readValue entities quote fuel rest).add (entityText entities name)
          (isKnown entities name)
      | (.broken, rest) => (readValue entities quote fuel rest).add [] false
    else (readValue entities quote fuel s).add [if isSpace c then ' ' else c] true

/-- Reads what follows the name of an attribute. -/
def readAttributeValue (entities : Entities) (s : List Char) : ValueText :=
  let s := s.dropWhile isSpace
  match s with
  | '=' :: rest =>
    let rest := rest.dropWhile isSpace
    match rest with
    | c :: more =>
      if c = '"' ∨ c = '\'' then readValue entities c more.length more else ⟨none, false, rest⟩
    | [] => ⟨none, false, []⟩
  | _ => ⟨none, false, s⟩

/-- How the tag ends here, if it does. -/
def tagEnd? : List Char → Option (TagEnd × List Char)
  | '>' :: rest => some (.opened, rest)
  | '/' :: '>' :: rest => some (.empty, rest)
  | _ => none

/-- Reads attributes and the end of a tag; `done` are those read, last first. -/
def readAttributes (entities : Entities) (name : Qualified) :
    (fuel : Nat) → (sound : Bool) → List (Qualified × String) → List Char → StartTag × List Char
  | 0, _, done, s => (⟨name, done.reverse, .broken, false⟩, s)
  | fuel + 1, sound, done, s =>
    match tagEnd? s with
    | some (finish, rest) => (⟨name, done.reverse, finish, sound⟩, rest)
    | none =>
      match readQualified? s with
      | none => (⟨name, done.reverse, .broken, false⟩, s)
      | some (key, rest) =>
        let v := readAttributeValue entities rest
        let taken := done.any (·.1 = key)
        let done :=
          match v.value with
          | some value => if taken then done else (key, String.ofList value) :: done
          | none => done
        let sound := sound && v.sound && !taken
        match tagEnd? v.rest with
        | some (finish, rest) => (⟨name, done.reverse, finish, sound⟩, rest)
        | none =>
          let rest := v.rest.dropWhile isSpace
          if rest.length = v.rest.length then (⟨name, done.reverse, .broken, false⟩, v.rest)
          else readAttributes entities name fuel sound done rest

/-- Reads a start tag from behind its opening bracket, if a name stands there. -/
def readStartTag? (entities : Entities) (s : List Char) : Option (StartTag × List Char) :=
  (readQualified? s).map fun (name, rest) =>
    readAttributes entities name rest.length true [] (rest.dropWhile isSpace)

end EpubLibrary.Xml
