import EpubLibrary.Xml.Tag
import EpubLibrary.Text.Charset.Basic

/-!
# The front of a document

`decode` turns the bytes of a document into text: a byte-order mark or the zeros between the first
characters tell the form, else the XML declaration names a character set, else it is UTF-8.
`readProlog` reads what stands before the first element, with the entities that a document type
declares.
-/

namespace EpubLibrary.Xml

/-! ## Characters -/

/-- The value of a pseudo-attribute of the XML declaration. -/
def declaredValue? (key : String) (declaration : List Char) : Option (List Char) := do
  let (_, rest) ← splitAt? key.toList declaration
  match (rest.dropWhile isSpace) with
  | '=' :: rest =>
    match rest.dropWhile isSpace with
    | c :: rest => if c = '"' ∨ c = '\'' then (splitAt? [c] rest).map (·.1) else none
    | [] => none
  | _ => none

/-- The character set that the XML declaration at the front of the bytes names. -/
def declaredCharset? (bytes : Bytes) : Option Text.Charset := do
  let front := (bytes.take 512).map fun b => Char.ofNat b.toNat
  let rest ← after? "<?xml" front
  let (declaration, _) ← splitAt? ['>'] rest
  let name ← declaredValue? "encoding" declaration
  let lower := String.ofList (name.map Char.toLower)
  -- Text that has been read so far is of single bytes, so it cannot be in wider units.
  if lower.startsWith "utf-16" ∨ lower.startsWith "utf-32" ∨ lower.startsWith "ucs" then none
  else Text.Charset.find? name

/-- The character set of a document and its bytes without a mark. -/
def charsetOf (bytes : Bytes) : Text.Charset × Bytes :=
  let wide (name : String) := (Text.Charset.ofName? name).getD .utf8
  if [0xEF, 0xBB, 0xBF].isPrefixOf bytes then (.utf8, bytes.drop 3)
  else if [0xFF, 0xFE].isPrefixOf bytes then (wide "utf_16_le", bytes.drop 2)
  else if [0xFE, 0xFF].isPrefixOf bytes then (wide "utf_16_be", bytes.drop 2)
  else if [0x3C, 0, 0x3F, 0].isPrefixOf bytes then (wide "utf_16_le", bytes)
  else if [0, 0x3C, 0, 0x3F].isPrefixOf bytes then (wide "utf_16_be", bytes)
  else ((declaredCharset? bytes).getD .utf8, bytes)

/-- Line ends are line feeds. -/
def joinLineEnds : List Char → List Char
  | [] => []
  | '\r' :: '\n' :: s => '\n' :: joinLineEnds s
  | '\r' :: s => '\n' :: joinLineEnds s
  | c :: s => c :: joinLineEnds s

/-- The text of a document, and whether all of its bytes are readable. -/
def decode (bytes : Bytes) : List Char × Bool :=
  let (charset, bytes) := charsetOf bytes
  let pieces := charset.pieces bytes
  (joinLineEnds (Text.replacing pieces), (Text.strict? pieces).isSome)

/-! ## Prolog -/

/-- What the front of a document leaves: entities, whether others may be declared elsewhere, and
whether it is free of errors so far. -/
structure Prolog where
  entities : Entities
  isOpen : Bool
  sound : Bool

/-- The replacement text of an entity value: characters by number stand for themselves. -/
def entityValue : (fuel : Nat) → List Char → List Char
  | _, [] => []
  | 0, s => s
  | fuel + 1, '&' :: '#' :: s =>
    match readReference ('#' :: s) with
    | (.char c, rest) => c :: entityValue fuel rest
    | (_, rest) => entityValue fuel rest
  | fuel + 1, c :: s => c :: entityValue fuel s

/-- Skips to behind the bracket that ends a declaration; quoted text may hold brackets. -/
def skipDeclaration : (quote : Option Char) → List Char → List Char
  | _, [] => []
  | some q, c :: s => skipDeclaration (if c = q then none else some q) s
  | none, c :: s =>
    if c = '>' then s
    else if c = '"' ∨ c = '\'' then skipDeclaration (some c) s
    else skipDeclaration none s

/-- The entity that a declaration declares, from behind its keyword, if its text is given there. -/
def declaredEntity? (s : List Char) : Option (String × List Char) :=
  match readName (s.dropWhile isSpace) with
  | ([], _) => none
  | (name, rest) =>
    match rest.dropWhile isSpace with
    | c :: rest =>
      if c = '"' ∨ c = '\'' then
        (splitAt? [c] rest).map fun (value, _) =>
          (String.ofList name, entityValue value.length value)
      else none
    | [] => none

/-- Reads the declarations of an internal subset, up to behind its closing bracket. The first
declaration of an entity counts. -/
def readSubset : (fuel : Nat) → Prolog → List Char → Prolog × List Char
  | 0, p, s => ({ p with sound := false }, s)
  | fuel + 1, p, s =>
    match s.dropWhile isSpace with
    | ']' :: rest => (p, rest)
    | '%' :: rest =>
      readSubset fuel { p with isOpen := true } ((rest.dropWhile (· ≠ ';')).drop 1)
    | s =>
      if let some rest := after? "<!--" s then
        match splitAt? "-->".toList rest with
        | some (_, rest) => readSubset fuel p rest
        | none => ({ p with sound := false }, [])
      else if let some rest := after? "<?" s then
        match splitAt? "?>".toList rest with
        | some (_, rest) => readSubset fuel p rest
        | none => ({ p with sound := false }, [])
      else if let some rest := after? "<!ENTITY" s then
        let p :=
          match declaredEntity? rest with
          | some (name, text) =>
            if p.entities.any (·.1 = name) then p
            else { p with entities := p.entities ++ [(name, text)] }
          | none => p
        readSubset fuel p (skipDeclaration none rest)
      else if let some rest := after? "<!" s then readSubset fuel p (skipDeclaration none rest)
      else ({ p with sound := false }, s)

/-- Reads a document type declaration from behind its keyword. -/
def readDoctype (p : Prolog) (s : List Char) : Prolog × List Char :=
  let (_, rest) := readName (s.dropWhile isSpace)
  let rest := rest.dropWhile isSpace
  let isExternal := (after? "SYSTEM" rest).isSome || (after? "PUBLIC" rest).isSome
  let p := { p with isOpen := p.isOpen || isExternal }
  let rest := if isExternal then rest.dropWhile (fun c => c ≠ '[' && c ≠ '>') else rest
  let (p, rest) :=
    match rest with
    | '[' :: more => readSubset more.length p more
    | _ => (p, rest)
  match rest.dropWhile isSpace with
  | '>' :: rest => (p, rest)
  | rest => ({ p with sound := false }, rest)

/-- Skips blanks, comments and processing instructions. -/
def skipMisc : (fuel : Nat) → (sound : Bool) → List Char → Bool × List Char
  | 0, sound, s => (sound, s)
  | fuel + 1, sound, s =>
    let s := s.dropWhile isSpace
    if let some rest := after? "<!--" s then
      match splitAt? "-->".toList rest with
      | some (_, rest) => skipMisc fuel sound rest
      | none => (false, [])
    else if let some rest := after? "<?" s then
      match splitAt? "?>".toList rest with
      | some (_, rest) => skipMisc fuel (sound && (after? "xml" rest).isNone) rest
      | none => (false, [])
    else (sound, s)

/-- Reads what stands before the first element. -/
def readProlog (sound : Bool) (s : List Char) : Prolog × List Char :=
  let s :=
    match after? "<?xml" s with
    | some (c :: rest) => if isSpace c then (rest.dropWhile (· ≠ '>')).drop 1 else s
    | _ => s
  let (sound, s) := skipMisc s.length sound s
  let p : Prolog := ⟨[], false, sound⟩
  match after? "<!DOCTYPE" s with
  | none => (p, s)
  | some rest =>
    let (p, rest) := readDoctype p rest
    let (sound, rest) := skipMisc rest.length p.sound rest
    ({ p with sound := sound }, rest)

end EpubLibrary.Xml
