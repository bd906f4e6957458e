import EpubLibrary.Text.Charset.Basic

/-!
# Encoding of a markup document

`decodeMarkup` finds how the bytes of a document spell its text: by a byte-order mark, by what the
document declares, as UTF-8, or in the code page of most western documents. Each encoding is tried
strictly; if none fits, the same ones with replacement characters.
-/

namespace EpubLibrary.Html

open EpubLibrary.Text

/-- What a byte-order mark tells, and the bytes behind it. -/
def splitMark (bytes : Bytes) : Option String × Bytes :=
  match bytes with
  | 0xFE :: 0xFF :: a :: b :: rest =>
    if a = 0 ∧ b = 0 then (none, bytes) else (some "utf-16be", a :: b :: rest)
  | 0xFF :: 0xFE :: a :: b :: rest =>
    if a = 0 ∧ b = 0 then (some "utf-32le", rest) else (some "utf-16le", a :: b :: rest)
  | 0xEF :: 0xBB :: 0xBF :: rest => (some "utf-8", rest)
  | 0 :: 0 :: 0xFE :: 0xFF :: rest => (some "utf-32be", rest)
  | _ => (none, bytes)

/-- A byte as a character of the same number. -/
def byteChar (b : UInt8) : Char := Char.ofNat b.toNat

def lowerAscii (c : Char) : Char := if 'A' ≤ c && c ≤ 'Z' then Char.ofNat (c.toNat + 32) else c

/-- The blanks of declarations. -/
def isDeclarationBlank (c : Char) : Bool :=
  c = ' ' || (9 ≤ c.toNat && c.toNat ≤ 13)

/-- Does the text start with a word in lower case, whatever its own case? -/
def startsLower (word s : List Char) : Bool := (s.take word.length).map lowerAscii == word

def isQuote (c : Char) : Bool := c = '"' || c = '\''

/-- Does the text hold the end of a processing instruction? -/
def holdsInstructionEnd : List Char → Bool
  | [] => false
  | c :: s => "?>".toList.isPrefixOf (c :: s) || holdsInstructionEnd s

/-- The value behind an `encoding=` that is followed by a quoted text and the end of the
instruction; of several on the line, the last. -/
def lastEncoding? : List Char → Option (List Char)
  | [] => none
  | c :: s =>
    match lastEncoding? s with
    | some found => some found
    | none =>
      if startsLower "encoding=".toList (c :: s) then
        match (c :: s).drop 9 with
        | q :: rest =>
          let value := rest.takeWhile (!isQuote ·)
          let after := rest.drop value.length
          if isQuote q && !after.isEmpty && holdsInstructionEnd (after.drop 1) then some value
          else none
        | [] => none
      else none

/-- The encoding that an XML declaration at the start names. -/
def xmlDeclared? (s : List Char) : Option (List Char) :=
  let s := s.dropWhile isDeclarationBlank
  if "<?".toList.isPrefixOf s then lastEncoding? ((s.drop 2).takeWhile (· ≠ '\n')) else none

/-- Ends the name of an encoding in a `meta` element. -/
def endsDeclared (c : Char) : Bool :=
  c = ' ' || c = '/' || c = ';' || c = '\'' || c = '"' || c = '>'

/-- The name behind the equals sign of `charset=`: blanks, perhaps a quote, the name, an end. When
no end follows, a blank or quote that was skipped may be it, and the name is empty. -/
def declaredValue? (s : List Char) : Option (List Char) :=
  let blanks := s.takeWhile isDeclarationBlank
  let s := s.drop blanks.length
  let opened := (s.head?).any isQuote
  let inner := if opened then s.drop 1 else s
  let value := inner.takeWhile (!endsDeclared ·)
  if value.length < inner.length then some value
  else if opened || blanks.contains ' ' then some []
  else none

/-- The name behind the last `charset=` of a tag; `s` is what follows the element's name. -/
def lastCharset? : List Char → Option (List Char)
  | [] => none
  | c :: s =>
    if c = '>' then none
    else
      match lastCharset? s with
      | some found => some found
      | none =>
        if startsLower "charset".toList s then
          match (s.drop 7).dropWhile isDeclarationBlank with
          | '=' :: rest => declaredValue? rest
          | _ => none
        else none

/-- The encoding that the first `meta` element with a charset names. -/
def metaDeclared? : List Char → Option (List Char)
  | [] => none
  | c :: s =>
    let here :=
      if c = '<' then
        let s := s.dropWhile isDeclarationBlank
        if startsLower "meta".toList s then lastCharset? (s.drop 4) else none
      else none
    match here with
    | some found => some found
    | none => metaDeclared? s

/-- The encoding that a document declares near its start, in lower case. -/
def declaredEncoding? (bytes : Bytes) : Option (List Char) :=
  let found :=
    match xmlDeclared? ((bytes.take 1024).map byteChar) with
    | some name => some name
    | none => metaDeclared? ((bytes.take (max 2048 (bytes.length / 20))).map byteChar)
  match found with
  | some name =>
    if name.isEmpty then none
    else some (name.map fun c => if c.toNat < 128 then lowerAscii c else replacementChar)
  | none => none

/-- Names by which documents call encodings that go by another. -/
def commonName (name : List Char) : List Char :=
  if name = "macintosh".toList then "mac-roman".toList
  else if name = "x-sjis".toList then "shift-jis".toList
  else name

/-- The character set or internal form of text that goes by a name. -/
def charset? (name : List Char) : Option Charset :=
  (Charset.find? name).or (Charset.internal? name)

/-- The character set that a document means by a name: hyphens may be left out. -/
def findCharset? (name : List Char) : Option Charset :=
  match charset? (commonName name) with
  | some charset => some charset
  | none => charset? (name.filter (· ≠ '-'))

/-- The names of encodings to try, in order and without repetition. -/
def candidates (bytes : Bytes) : List (List Char) :=
  let (mark, body) := splitMark bytes
  ((mark.map String.toList).toList ++ (declaredEncoding? body).toList ++
    ["utf-8".toList, "windows-1252".toList]).eraseDups

/-- The first encoding that fits the bytes strictly and gives some text. -/
def fitting? (names : List (List Char)) (body : Bytes) : Option Charset :=
  match names.findSome? fun name => (findCharset? name).filter (·.decode? body |>.isSome) with
  | some charset => if charset.decode? body = some [] then none else some charset
  | none => none

/-- The encoding that a document is read in: the first that fits, else the first that is known. -/
def chosenCharset? (bytes : Bytes) : Option Charset :=
  let names := candidates bytes
  match fitting? names (splitMark bytes).2 with
  | some charset => some charset
  | none => (names.filter (· ≠ "ascii".toList)).findSome? findCharset?

/-- The text of a document, with replacement characters where its encoding does not fit. -/
def decodeMarkup (bytes : Bytes) : String :=
  match chosenCharset? bytes with
  | some charset => String.ofList (charset.decodeReplacing (splitMark bytes).2)
  | none => ""

/-- The first surrogates that stand alone in the text of a document. -/
def strayOf? (bytes : Bytes) : Option Charset.Stray :=
  (chosenCharset? bytes).bind (·.stray? (splitMark bytes).2)

end EpubLibrary.Html
