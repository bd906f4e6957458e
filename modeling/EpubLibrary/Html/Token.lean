import EpubLibrary.Html.Entity
import EpubLibrary.Html.Elements

/-!
# Tokens of a markup text

`decodeReferences` replaces character references by what they stand for. `Tag.read`, `readComment`
and `Doctype.read` read one construct and give the text behind it. `rawLength` and `scriptLength`
find where the text of an element without markup ends.
-/

namespace EpubLibrary.Html

def isSpace (c : Char) : Bool :=
  c = ' ' || c = '\t' || c = '\n' || c = '\x0c' || c = '\r'

def isLetter (c : Char) : Bool := ('a' ≤ c && c ≤ 'z') || ('A' ≤ c && c ≤ 'Z')

def isDigit (c : Char) : Bool := '0' ≤ c && c ≤ '9'

/-- The lower-case form of an ASCII letter. -/
def lower (c : Char) : Char := if 'A' ≤ c && c ≤ 'Z' then Char.ofNat (c.toNat + 32) else c

def replacement : Char := '\ufffd'

def skipSpace (s : List Char) : List Char := s.dropWhile isSpace

/-- Line ends are a line feed each, however they were written. -/
def unifyLineEnds : List Char → List Char
  | '\r' :: '\n' :: s => '\n' :: unifyLineEnds s
  | '\r' :: s => '\n' :: unifyLineEnds s
  | c :: s => c :: unifyLineEnds s
  | [] => []

/-! ## References -/

/-- What the numbers 128 to 159 stand for: the characters of the most used western code page. -/
def numberedSpecials : List Nat :=
  [0x20AC, 0x81, 0x201A, 0x192, 0x201E, 0x2026, 0x2020, 0x2021, 0x2C6, 0x2030, 0x160, 0x2039,
   0x152, 0x8D, 0x17D, 0x8F, 0x90, 0x2018, 0x2019, 0x201C, 0x201D, 0x2022, 0x2013, 0x2014, 0x2DC,
   0x2122, 0x161, 0x203A, 0x153, 0x9D, 0x17E, 0x178]

/-- The character that a numeric reference stands for. -/
def numbered (n : Nat) : Char :=
  if n = 0 ∨ 0x110000 ≤ n ∨ (0xD800 ≤ n ∧ n < 0xE000) then replacement
  else if 0x80 ≤ n ∧ n < 0xA0 then Char.ofNat (numberedSpecials.getD (n - 0x80) n)
  else Char.ofNat n

def isHexDigit (c : Char) : Bool := (Bytes.hexValue? c).isSome

def decimalNumber (s : List Char) : Nat := s.foldl (fun n c => 10 * n + (c.toNat - 48)) 0

/-- Takes the semicolon that may end a reference. -/
def dropSemicolon : List Char → List Char
  | ';' :: s => s
  | s => s

/-- The reference at the start of a text that follows an ampersand: its characters and the length
of its spelling. In an attribute a name without semicolon is no reference before a letter, a digit
or an equals sign. -/
def reference? (inAttribute : Bool) (s : List Char) : Option (List Char × Nat) :=
  match s with
  | '#' :: x :: rest =>
    if x = 'x' ∨ x = 'X' then
      let digits := rest.takeWhile isHexDigit
      if digits.isEmpty then none
      else
        let after := rest.drop digits.length
        some ([numbered (hexNumber digits)], s.length - (dropSemicolon after).length)
    else
      let digits := (x :: rest).takeWhile isDigit
      if digits.isEmpty then none
      else
        let after := (x :: rest).drop digits.length
        some ([numbered (decimalNumber digits)], s.length - (dropSemicolon after).length)
  | _ =>
    match longestEntity? (s.take 40) with
    | none => none
    | some (name, expansion) =>
      let next := (s.drop name.length).head?
      if inAttribute && name.getLast? ≠ some ';' &&
          next.any (fun c => c = '=' || isLetter c || isDigit c) then none
      else some (expansion, name.length)

/-- Replaces references; `skip` characters of one that was replaced are left. -/
def decodeFrom (inAttribute : Bool) : (skip : Nat) → List Char → List Char
  | _, [] => []
  | skip + 1, _ :: s => decodeFrom inAttribute skip s
  | 0, c :: s =>
    if c = '&' then
      match reference? inAttribute s with
      | some (expansion, length) => expansion ++ decodeFrom inAttribute length s
      | none => c :: decodeFrom inAttribute 0 s
    else c :: decodeFrom inAttribute 0 s

def decodeReferences (inAttribute : Bool) (s : List Char) : List Char :=
  decodeFrom inAttribute 0 s

/-- A character without meaning in names and in text without markup shows as the replacement. -/
def showNull (c : Char) : Char := if c = '\x00' then replacement else c

/-! ## Tags -/

abbrev Attributes := List (String × String)

/-- The value of an attribute behind its equals sign, and the text behind it. -/
def readValue (s : List Char) : List Char × List Char :=
  match s with
  | '"' :: rest => (rest.takeWhile (· ≠ '"'), (rest.dropWhile (· ≠ '"')).drop 1)
  | '\'' :: rest => (rest.takeWhile (· ≠ '\''), (rest.dropWhile (· ≠ '\'')).drop 1)
  | _ =>
    let ends := fun c => isSpace c || c = '>'
    (s.takeWhile (!ends ·), s.dropWhile (!ends ·))

/-- Where the name of an attribute ends. -/
def endsAttributeName (c : Char) : Bool := isSpace c || c = '/' || c = '>' || c = '='

/-- One attribute and the text behind it; an equals sign may start a name. -/
def readAttribute (s : List Char) : (List Char × List Char) × List Char :=
  let name := s.take 1 ++ (s.drop 1).takeWhile (!endsAttributeName ·)
  let rest := (s.drop 1).dropWhile (!endsAttributeName ·)
  match skipSpace rest with
  | '=' :: more =>
    let (value, rest) := readValue (skipSpace more)
    ((name, value), rest)
  | _ => ((name, []), rest)

/-- Adds an attribute unless one of the same name came before. -/
def addAttribute (attributes : Attributes) (name value : String) : Attributes :=
  if attributes.any (·.1 = name) then attributes else attributes ++ [(name, value)]

/-- How a tag ends. -/
inductive TagEnd where
  | closed
  | selfClosed
  | unfinished
  deriving DecidableEq

/-- The attributes of a tag, how the tag ends, and the text behind it. Every round takes at least
one character, so a bound one longer than the text is never reached. -/
def readAttributes : (bound : List Char) → List Char → Attributes → Attributes × TagEnd × List Char
  | [], s, found => (found, .unfinished, s)
  | _ :: bound, s, found =>
    match skipSpace s with
    | [] => (found, .unfinished, [])
    | '>' :: rest => (found, .closed, rest)
    | '/' :: '>' :: rest => (found, .selfClosed, rest)
    | '/' :: rest => readAttributes bound rest found
    | s =>
      let ((name, value), rest) := readAttribute s
      let name := String.ofList (name.map (showNull ∘ lower))
      let value := String.ofList (decodeReferences true (value.map showNull))
      readAttributes bound rest (addAttribute found name value)

/-- A start or end tag. -/
structure Tag where
  name : String
  attributes : Attributes
  ending : TagEnd

def endsTagName (c : Char) : Bool := isSpace c || c = '/' || c = '>'

/-- Reads a tag from its name on. -/
def Tag.read (s : List Char) : Tag × List Char :=
  let name := String.ofList ((s.takeWhile (!endsTagName ·)).map (showNull ∘ lower))
  let (attributes, ending, rest) :=
    readAttributes (' ' :: s) (s.dropWhile (!endsTagName ·)) []
  (⟨name, attributes, ending⟩, rest)

/-! ## Comments and document types -/

/-- The text up to the end mark of a comment, and the text behind the mark. -/
def readCommentBody : List Char → List Char × List Char
  | '-' :: '-' :: '>' :: rest => ([], rest)
  | '-' :: '-' :: '!' :: '>' :: rest => ([], rest)
  | c :: rest =>
    let (body, after) := readCommentBody rest
    (showNull c :: body, after)
  | [] => ([], [])

/-- A comment behind its start mark. -/
def readComment (s : List Char) : List Char × List Char :=
  match s with
  | '>' :: rest => ([], rest)
  | '-' :: '>' :: rest => ([], rest)
  | _ => readCommentBody s

/-- A comment without marks of its own goes on to the end of the tag. -/
def readBogusComment (s : List Char) : List Char × List Char :=
  ((s.takeWhile (· ≠ '>')).map showNull, (s.dropWhile (· ≠ '>')).drop 1)

structure Doctype where
  name : String
  publicId : Option String
  systemId : Option String

/-- A quoted literal of a document type, and the text behind it. -/
def readLiteral? (s : List Char) : Option (String × List Char) :=
  match s with
  | '"' :: rest =>
    let body := rest.takeWhile fun c => c ≠ '"' ∧ c ≠ '>'
    some (String.ofList (body.map showNull), dropQuote '"' (rest.drop body.length))
  | '\'' :: rest =>
    let body := rest.takeWhile fun c => c ≠ '\'' ∧ c ≠ '>'
    some (String.ofList (body.map showNull), dropQuote '\'' (rest.drop body.length))
  | _ => none
where
  dropQuote (quote : Char) : List Char → List Char
    | c :: rest => if c = quote then rest else c :: rest
    | [] => []

/-- Does the text start with a word, whatever its case? -/
def startsWithWord (word : List Char) (s : List Char) : Bool :=
  (s.take word.length).map lower == word

/-- A document type behind its keyword. -/
def Doctype.read (s : List Char) : Doctype × List Char :=
  let s := skipSpace s
  let ends := fun c => isSpace c || c = '>'
  let name := String.ofList ((s.takeWhile (!ends ·)).map showNull)
  let s := skipSpace (s.dropWhile (!ends ·))
  let skip (s : List Char) := (s.dropWhile (· ≠ '>')).drop 1
  if startsWithWord "public".toList s then
    match readLiteral? (skipSpace (s.drop 6)) with
    | none => (⟨name, none, none⟩, skip s)
    | some (publicId, s) =>
      match readLiteral? (skipSpace s) with
      | none => (⟨name, some publicId, none⟩, skip s)
      | some (systemId, s) => (⟨name, some publicId, some systemId⟩, skip s)
  else if startsWithWord "system".toList s then
    match readLiteral? (skipSpace (s.drop 6)) with
    | none => (⟨name, none, none⟩, skip s)
    | some (systemId, s) => (⟨name, none, some systemId⟩, skip s)
  else (⟨name, none, none⟩, skip s)

/-- The text of a document type as it is shown. -/
def Doctype.toText (d : Doctype) : String :=
  d.name ++
    (match d.publicId, d.systemId with
    | some p, some s => " PUBLIC \"" ++ p ++ "\" \"" ++ s ++ "\""
    | some p, none => " PUBLIC \"" ++ p ++ "\""
    | none, some s => " SYSTEM \"" ++ s ++ "\""
    | none, none => "")

/-! ## Text without markup -/

/-- Does the text start with the given mark, the given name and the end of a tag name? -/
def startsWithTag (mark name : List Char) (s : List Char) : Bool :=
  mark.isPrefixOf s && startsWithWord name (s.drop mark.length) &&
    ((s.drop (mark.length + name.length)).head?).any endsTagName

/-- How many characters stand before the end tag of an element. -/
def rawLength (name : List Char) : List Char → Nat
  | [] => 0
  | c :: s => if startsWithTag ['<', '/'] name (c :: s) then 0 else rawLength name s + 1

/-- Where a script is: outside a comment, inside one, or inside a script inside one. -/
inductive ScriptDepth where
  | plain
  | commented
  | nested
  deriving DecidableEq

/-- How many characters stand before the end tag of a script. -/
def scriptLength (depth : ScriptDepth) : List Char → Nat
  | [] => 0
  | c :: s =>
    let name := "script".toList
    match depth with
    | .plain =>
      if startsWithTag ['<', '/'] name (c :: s) then 0
      else if "<!--".toList.isPrefixOf (c :: s) then scriptLength .commented s + 1
      else scriptLength .plain s + 1
    | .commented =>
      if startsWithTag ['<', '/'] name (c :: s) then 0
      else if startsWithTag ['<'] name (c :: s) then scriptLength .nested s + 1
      else if "-->".toList.isPrefixOf (c :: s) then scriptLength .plain s + 1
      else scriptLength .commented s + 1
    | .nested =>
      if startsWithTag ['<', '/'] name (c :: s) then scriptLength .commented s + 1
      else if "-->".toList.isPrefixOf (c :: s) then scriptLength .plain s + 1
      else scriptLength .nested s + 1

end EpubLibrary.Html
