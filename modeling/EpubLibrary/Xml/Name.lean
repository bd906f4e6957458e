import EpubLibrary.Text.Blank

namespace EpubLibrary.Xml

/-- May the character stand in a document? -/
def isChar (c : Char) : Bool :=
  let n := c.toNat
  n = 0x9 || n = 0xA || n = 0xD || (0x20 ≤ n && n ≠ 0xFFFE && n ≠ 0xFFFF)

def isSpace (c : Char) : Bool := c = ' ' || c = '\t' || c = '\n' || c = '\r'

def nameStartRanges : List (Nat × Nat) :=
  [(0x41, 0x5A), (0x5F, 0x5F), (0x61, 0x7A), (0xC0, 0xD6), (0xD8, 0xF6), (0xF8, 0x2FF),
   (0x370, 0x37D), (0x37F, 0x1FFF), (0x200C, 0x200D), (0x2070, 0x218F), (0x2C00, 0x2FEF),
   (0x3001, 0xD7FF), (0xF900, 0xFDCF), (0xFDF0, 0xFFFD), (0x10000, 0xEFFFF)]

def nameOnlyRanges : List (Nat × Nat) :=
  [(0x2D, 0x2E), (0x30, 0x39), (0xB7, 0xB7), (0x300, 0x36F), (0x203F, 0x2040)]

/-- May a name without colons begin with the character? -/
def isPlainStart (c : Char) : Bool := Text.inRanges nameStartRanges c.toNat

/-- May a name without colons hold the character? -/
def isPlainChar (c : Char) : Bool := isPlainStart c || Text.inRanges nameOnlyRanges c.toNat

def isNameStart (c : Char) : Bool := c = ':' || isPlainStart c

def isNameChar (c : Char) : Bool := c = ':' || isPlainChar c

/-- The name at the front of a text, which is empty if there is none, and the rest. -/
def readName : List Char → List Char × List Char
  | [] => ([], [])
  | c :: s =>
    if isNameStart c then (c :: s.takeWhile isNameChar, s.dropWhile isNameChar) else ([], c :: s)

/-- The same for a name without colons. -/
def readPlain : List Char → List Char × List Char
  | [] => ([], [])
  | c :: s =>
    if isPlainStart c then (c :: s.takeWhile isPlainChar, s.dropWhile isPlainChar) else ([], c :: s)

/-- A name as it is written: a prefix, if there is one, and the rest. -/
structure Qualified where
  mark : Option String
  name : String
  deriving DecidableEq

/-- The written form. -/
def Qualified.text (q : Qualified) : String :=
  match q.mark with
  | some p => p ++ ":" ++ q.name
  | none => q.name

def plain (name : List Char) : Qualified := ⟨none, String.ofList name⟩

/-- Reads a qualified name; a colon that parts no two names belongs to the name. -/
def readQualified? (s : List Char) : Option (Qualified × List Char) :=
  match readPlain s with
  | ([], rest) =>
    match readName rest with
    | ([], _) => none
    | (name, rest) => some (plain name, rest)
  | (p, ':' :: rest) =>
    match readPlain rest with
    | ([], rest) => some (plain (p ++ ':' :: rest.takeWhile isNameChar), rest.dropWhile isNameChar)
    | (name, ':' :: rest) =>
      let (more, rest) := readName rest
      some (⟨some (String.ofList p), String.ofList (name ++ ':' :: more)⟩, rest)
    | (name, rest) => some (⟨some (String.ofList p), String.ofList name⟩, rest)
  | (name, rest) => some (plain name, rest)

/-- Is the text at the front of the other? Then the rest. -/
def after? (mark : String) (s : List Char) : Option (List Char) :=
  if mark.toList.isPrefixOf s then some (s.drop mark.length) else none

/-- The text up to a mark, and what follows the mark. -/
def splitAt? (mark : List Char) : List Char → Option (List Char × List Char)
  | [] => none
  | c :: s =>
    if mark.isPrefixOf (c :: s) then some ([], (c :: s).drop mark.length)
    else (splitAt? mark s).map fun (front, rest) => (c :: front, rest)

end EpubLibrary.Xml
